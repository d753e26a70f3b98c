import SqlBuilder.Proofs.Session.Working

/-!
Declaring, compiling and the preparation of statements do not look at the scopes of transactions, and they are quiet
apart from the scripts of groups and hooks.
-/

namespace SqlBuilder

open Act

variable {α β : Type} {env : Surroundings} {g : Guise env}

/-! ### Making statements -/

theorem Execute.blind_hookFor (event : EventKind) (table : Value) : Blind g (hookFor event table) := by
  unfold hookFor
  split
  · exact .pure _
  · exact .bind (.lift _) fun _ => .get_bind (fun _ => .pure _) fun _ => rfl

theorem Execute.blind_remember (s : Issued) : Blind g (remember s) :=
  .changing (fun _ => ⟨⟩) (fun session => { session with lastStatement := some s }) (fun _ _ => rfl)
    (fun _ => .of_eq rfl rfl rfl rfl) (fun _ => rfl) fun _ => rfl

theorem Act.Blind.making : Making (Blind g) where
  toModular := Blind.modular
  throw := .throw
  lift := .lift
  builder := .builder
  draftAt := .draftAt
  dialect := .dialect
  depth_bind hk hdepth := .depth_bind (hk _) fun other h => hdepth _ other h
  newBuilder := .newBuilder
  fill := .fill
  notify := .notify
  hookFor := Execute.blind_hookFor
  issued := .issued
  remember := Execute.blind_remember

namespace Execute

theorem blind_fire (id : Nat) (event : EventKind) (statement : Option Issued) (arguments : Value) :
    Blind g (fire id event statement arguments) := Blind.making.fire id event statement arguments

theorem blind_prepare (id : Nat) (request : StatementRequest) : Blind g (prepare id request) :=
  Blind.making.prepare id request

end Execute

/-! ### Declarations -/

theorem Act.Blind.declaring : Declaring (fun _ => Blind g) (fun _ => True) fun _ => True where
  making := making
  newBuilder_bind hf := .bind (.newBuilder _) hf
  draftOf_bind _ hf := .bind (.draftOf _) fun n => hf n trivial
  modifyDraftAt _ _ _ := .modifyDraftAt _ _
  drafting _ _ := .drafting _ _

namespace Declare

theorem blind_condition (id : Nat) (joiner : String) (key operator operand : Value) :
    Blind g (condition id joiner key operator operand) :=
  Blind.declaring.condition (K := []) (.inl trivial) joiner key operator operand

theorem blind_union (id : Nat) (member kind : Value) : Blind g (union id member kind) :=
  Blind.making.union .modifyDraft id member kind

theorem blind_newQuery (id : Nat) : Blind g (newQuery id) := Blind.making.newQuery id

theorem blind_setTables (id : Nat) (tables : List Value) : Blind g (setTables id tables) :=
  Blind.declaring.setTables (K := []) (.inl trivial) tables

theorem blind_table (id : Nat) (tables : List Value) : Blind g (table id tables) := by
  unfold table
  split
  · exact .bind (blind_setTables _ _) fun _ => .pure _
  · exact .bind (blind_newQuery _) fun _ => .bind (blind_setTables _ _) fun _ => .pure _

theorem blind_clone (depth id : Nat) : Blind g (clone depth id) :=
  Blind.modular.clone .throw .builder .draft .addDraft .addBuilder depth id

theorem blind_subQuery (member shortName : Value) : Blind g (subQuery member shortName) :=
  Blind.making.subQuery member shortName

end Declare

theorem Act.blind_redirect (id other : Nat) : Blind g (do
    let b' ← Act.builder other
    Act.modifyBuilder id fun b => { b with draft := b'.draft }) :=
  .bind (.builder _) fun _ => .modifyBuilder _ (fun _ => rfl) fun _ hnone => hnone

/-- All that builders do apart from the driver. -/
theorem Act.Blind.working : Working (Blind g) where
  toMaking := making
  idle answer change hop hidle hanswer hchange :=
    .changing answer change hop (fun s => (hidle s).quiet) (hanswer _) (hchange _)
  modifyDraft _ _ _ _ := .modifyDraft _ _
  modifyBuilder _ _ hrole _ _ hpending := .modifyBuilder _ hrole fun b hnone => (hpending b).trans hnone
  clone := Declare.blind_clone
  builderFor := making.builderFor Declare.blind_clone blind_redirect
  table := Declare.blind_table
  condition := Declare.blind_condition
  mutate _ _ hc hpurpose _ :=
    declaring.mutate (K := []) hc hpurpose (.inl trivial) fun _ _ _ => Declare.blind_union _ _ _
  redirect := blind_redirect
  union := Declare.blind_union
  take _ := .modifyBuilder _ (fun _ => rfl) fun _ _ => rfl

end SqlBuilder
