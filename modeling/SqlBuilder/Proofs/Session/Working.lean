import SqlBuilder.Proofs.Session.Blind
import SqlBuilder.Proofs.Session.Drafting

/-!
What builders do apart from the driver. A property that goes over to what is put together from such operations holds of
all calls that declare or compile something, or that ask for it.
-/

namespace SqlBuilder

variable {α : Type}

/-- What a call is for: to declare or to compile something, to execute statements, to end the transaction of the
builder, or to ask how it has ended. -/
inductive Purpose where
  | declare
  | execute
  | finish
  | ask
  deriving DecidableEq

/-- The call lets a builder refer to another one. -/
def BuilderCall.Ties : BuilderCall → Prop
  | .union _ _ | .shareDraft _ => True
  | _ => False

def BuilderCall.purpose : BuilderCall → Purpose
  | .query _ _ | .statement _ _ | .fetchAll | .first | .find _ _ | .findAll _ _ | .count _ | .aggregate _ _
  | .insert _ _ | .update _ | .updateOrInsert _ | .delete _ => .execute
  | .commit | .rollback => .finish
  | .isClosed | .status => .ask
  | _ => .declare

/-- A call that declares something on the builder, if it may be changed. -/
theorem Act.Declaring.mutate {P : List Nat → ∀ {α : Type}, Act α → Prop} {allowed target : Nat → Prop}
    (h : Declaring P allowed target) {c : BuilderCall} (hc : c.IsMutation) (hpurpose : c.purpose = .declare) {k : Nat}
    {K : List Nat} (hk : allowed k ∨ k ∈ K)
    (hunion : ∀ member kind, c = .union member kind → P K (Declare.union k member kind)) : P K (c.perform k) := by
  refine h.perform hc hk hunion (fun _ hcount => ?_) fun _ _ haggregate => ?_
  · rw [hcount] at hpurpose
    cases hpurpose
  · rw [haggregate] at hpurpose
    cases hpurpose

namespace Session

/-- The driver, the journal, the scopes, the builders, the drafts and the prefix of tables are as before. -/
structure Unmoved (s t : Session) : Prop where
  driver : t.driver = s.driver
  journal : t.journal = s.journal
  scopes : t.scopes = s.scopes
  builders : t.builders = s.builders
  drafts : t.drafts = s.drafts
  lead : t.lead = s.lead

theorem Unmoved.quiet {s t : Session} (h : Unmoved s t) : Quiet s t := .of_eq h.driver h.journal h.scopes h.builders

end Session

namespace Act

/-- The property holds of what has no part in a statement. -/
structure Idling (P : ∀ {α : Type}, Act α → Prop) : Prop extends Modular P where
  throw : ∀ {α : Type} (fault : Fault), P (MonadExcept.throw fault : Act α)
  /-- Neither the answer nor the change depends on the scopes. -/
  idle : ∀ {α : Type} {op : Act α} (answer : Session → α) (change : Session → Session),
    (∀ env s, op.exec env s = (.ok (answer s), change s)) → (∀ s : Session, s.Unmoved (change s)) →
    (∀ view s, answer (Session.rescope view s) = answer s) →
    (∀ view s, change (Session.rescope view s) = (change s).rescope view) → P op

/-- The property holds of what builders do apart from the driver, but for letting them refer to others and for taking a
result that is pending. -/
structure Minding (P : ∀ {α : Type}, Act α → Prop) : Prop extends Making P, Idling P where
  /-- What refers to other builders is left alone. -/
  modifyDraft : ∀ (id : Nat) {f : Draft → Draft}, (∀ d, (f d).joins = d.joins) → (∀ d, (f d).unions = d.unions) →
    P (Act.modifyDraft id f)
  modifyBuilder : ∀ (id : Nat) {f : Builder → Builder}, (∀ b, (f b).role = b.role) → (∀ b, (f b).draft = b.draft) →
    (∀ b, (f b).lead = b.lead) → (∀ b, (f b).pending = b.pending) → P (Act.modifyBuilder id f)
  clone : ∀ depth id, P (Declare.clone depth id)
  /-- The builder of a transaction is a copy. -/
  builderFor : ∀ id scope, P (Transaction.builderFor id scope)
  table : ∀ id tables, P (Declare.table id tables)
  condition : ∀ id joiner key operator operand, P (Declare.condition id joiner key operator operand)
  mutate : ∀ (id : Nat) {c : BuilderCall}, c.IsMutation → c.purpose = .declare → ¬ c.Ties → P (c.perform id)

/-- The property holds of what builders do apart from the driver, but for taking a result that is pending. -/
structure Tending (P : ∀ {α : Type}, Act α → Prop) : Prop extends Minding P where
  /-- The draft of another builder is used from now on. -/
  redirect : ∀ id other, P (do
    let b' ← Act.builder other
    Act.modifyBuilder id fun b => { b with draft := b'.draft })
  union : ∀ id member kind, P (Declare.union id member kind)

/-- The property holds of what builders do apart from the driver. -/
structure Working (P : ∀ {α : Type}, Act α → Prop) : Prop extends Tending P where
  take : ∀ id, P (Act.modifyBuilder id fun b => { b with pending := none })

namespace Idling

variable {P : ∀ {α : Type}, Act α → Prop} (h : Idling P)

include h

/-- Something is looked up that does not depend on the scopes. -/
theorem reading {op : Act α} (answer : Session → α) (hop : ∀ env s, op.exec env s = (.ok (answer s), s))
    (hanswer : ∀ view s, answer (Session.rescope view s) = answer s) : P op :=
  h.idle answer id hop (fun _ => ⟨rfl, rfl, rfl, rfl, rfl, rfl⟩) hanswer fun _ _ => rfl

theorem marked (x : Number.Binary64) : P (Act.marked x) := by
  unfold Act.marked
  split
  · exact h.idle (fun s => .float (.marked (s.unnumbered + 1))) (fun s => { s with unnumbered := s.unnumbered + 1 })
      (fun _ _ => rfl) (fun _ => ⟨rfl, rfl, rfl, rfl, rfl, rfl⟩) (fun _ _ => rfl) fun _ _ => rfl
  · exact h.pure _

end Idling

namespace Working

variable {P : ∀ {α : Type}, Act α → Prop} (h : Working P)

include h

/-- A property that follows from this one, and goes over to what is put together. -/
theorem imp {Q : ∀ {α : Type}, Act α → Prop} (hQ : Modular Q)
    (hdepth : ∀ {β : Type} {k : Surroundings → Act β}, (∀ env, Q (k env)) → Q (MonadReader.read >>= k))
    (himp : ∀ {α : Type} {op : Act α}, P op → Q op) : Working Q where
  toModular := hQ
  throw _ := himp (h.throw _)
  lift _ := himp (h.lift _)
  builder _ := himp (h.builder _)
  draftAt _ := himp (h.draftAt _)
  dialect := himp h.dialect
  depth_bind hk _ := hdepth hk
  newBuilder _ := himp (h.newBuilder _)
  fill _ _ := himp (h.fill _ _)
  notify _ _ _ := himp (h.notify _ _ _)
  hookFor _ _ := himp (h.hookFor _ _)
  issued _ := himp (h.issued _)
  remember _ := himp (h.remember _)
  idle answer change hop hidle hanswer hchange := himp (h.idle answer change hop hidle hanswer hchange)
  modifyDraft _ _ hjoins hunions := himp (h.modifyDraft _ hjoins hunions)
  modifyBuilder _ _ hrole hdraft hlead hpending := himp (h.modifyBuilder _ hrole hdraft hlead hpending)
  clone _ _ := himp (h.clone _ _)
  builderFor _ _ := himp (h.builderFor _ _)
  table _ _ := himp (h.table _ _)
  condition _ _ _ _ _ := himp (h.condition _ _ _ _ _)
  mutate _ _ hc hpurpose hties := himp (h.mutate _ hc hpurpose hties)
  redirect _ _ := himp (h.redirect _ _)
  union _ _ _ := himp (h.union _ _ _)
  take _ := himp (h.take _)

end Working

/-- A builder that comes up gets the draft of the copy. -/
theorem Making.builderFor {P : ∀ {α : Type}, Act α → Prop} (h : Making P)
    (hclone : ∀ depth id, P (Declare.clone depth id))
    (hredirect : ∀ id other, P (do
      let b' ← Act.builder other
      Act.modifyBuilder id fun b => { b with draft := b'.draft })) (id scope : Nat) :
    P (Transaction.builderFor id scope) := by
  refine h.bind (h.newBuilder _) fun fresh => ?_
  refine h.depth_bind (fun env => h.bind (hclone _ _) fun copy => ?_) fun _ _ hdepth => by simp only [hdepth]
  rw [← bind_assoc]
  exact h.bind (hredirect fresh copy) fun _ => h.pure _

namespace Minding

variable {P : ∀ {α : Type}, Act α → Prop} (h : Minding P)

include h

/-- The hooks are changed. -/
theorem modifyHooks (f : HookTable → HookTable) : P (modify fun s => { s with hooks := f s.hooks } : Act PUnit) :=
  h.idle (fun _ => ⟨⟩) (fun s => { s with hooks := f s.hooks }) (fun _ _ => rfl)
    (fun _ => ⟨rfl, rfl, rfl, rfl, rfl, rfl⟩)
    (fun _ _ => rfl) fun _ _ => rfl

section Hooks

open Hooks

theorem register (event hook table : Value) : P (register event hook table) :=
  h.bind (h.lift _) fun kind => h.bind (h.lift _) fun _ => h.modifyHooks fun hooks => hooks.register kind hook table

theorem remove (event table : Value) : P (remove event table) :=
  h.bind (h.lift _) fun _ => h.bind (h.lift _) fun kind => h.modifyHooks fun hooks => hooks.remove kind table

theorem find (event table : Value) : P (find event table) := by
  unfold Hooks.find
  split
  · exact h.pure _
  · exact h.bind (h.lift _) fun _ => h.bind (h.hookFor _ _) fun _ => h.pure _

theorem tableOf (id : Nat) (table : Value) : P (tableOf id table) := by
  unfold Hooks.tableOf
  split
  · exact h.pure _
  · exact h.withLead _ _ _

end Hooks

section Calls

open BuilderCall

theorem declaring (id : Nat) {change : Act Unit} (hchange : P change) : P (declaring id change) :=
  h.bind hchange fun _ => h.builderValue _

theorem silently {operation : Act Unit} (hoperation : P operation) : P (silently operation) :=
  h.bind hoperation fun _ => h.pure _

theorem joinAt (id : Nat) (number : Value) : P (joinAt id number) := by
  unfold BuilderCall.joinAt
  split
  · refine h.bind (h.draft _) fun _ => h.whenever (h.throw _) fun _ => ?_
    split
    · exact h.throw _
    · exact h.bind (h.optionMapM h.builderValue _) fun _ => h.pure _
  · exact h.throw _

/-- What declares or compiles, or asks for what was declared, without letting the builder refer to another one. -/
theorem perform (id : Nat) {c : BuilderCall} (hc : c.purpose = .declare) (hties : ¬ c.Ties) : P (c.perform id) := by
  cases c with
  | table tables => exact h.bind (h.table _ _) fun _ => h.builderValue _
  | asObject factory =>
      exact h.declaring _ (h.modifyBuilder _ (fun _ => rfl) (fun _ => rfl) (fun _ => rfl) fun _ => rfl)
  | setOverwriting flag =>
      exact h.declaring _ (h.modifyBuilder _ (fun _ => rfl) (fun _ => rfl) (fun _ => rfl) fun _ => rfl)
  | union | shareDraft => exact absurd trivial hties
  | clone =>
      refine h.depth_bind (fun _ => ?_) fun _ _ hdepth => by simp only [hdepth]
      exact h.bind (h.clone _ _) fun _ => h.builderValue _
  | newQuery => exact h.bind (h.newQuery _) fun _ => h.builderValue _
  | raw sql bindings => exact h.pure _
  | subQuery member shortName => exact h.subQuery _ _
  | addPrefix names scope => exact h.withLead _ _ _
  | isOverwriting => exact h.bind (h.builder _) fun _ => h.pure _
  | firstAlias => exact h.bind (h.draft _) fun _ => h.pure _
  | firstTable => exact h.bind (h.draft _) fun _ => h.pure _
  | resultColumns => exact h.bind (h.draft _) fun _ => h.lift _
  | view => exact h.depth_bind (fun _ => h.view _ _) fun _ _ hdepth => by simp only [hdepth]
  | joinBuilder number => exact h.joinAt _ _
  | registerHook event hook table => exact h.silently (h.bind (h.tableOf _ _) fun _ => h.register _ _ _)
  | removeHook event table => exact h.silently (h.bind (h.tableOf _ _) fun _ => h.remove _ _)
  | findHook event table => exact h.bind (h.tableOf _ _) fun _ => h.find _ _
  | fire event arguments => exact h.bind (h.lift _) fun _ => h.bind (h.fire _ _ _ _) fun _ => h.pure _
  | query | statement | fetchAll | first | find | findAll | count | aggregate | insert | update | updateOrInsert
  | delete | commit | rollback | isClosed | status => cases hc
  | _ => exact h.mutate id trivial rfl hties

theorem scopeOf (id : Nat) : P (scopeOf id) := by
  refine h.bind (h.builder _) fun _ => ?_
  split
  · exact h.pure _
  · exact h.throw _

end Calls

end Minding

namespace Tending

variable {P : ∀ {α : Type}, Act α → Prop} (h : Tending P)

include h

open BuilderCall

theorem shareDraft (id : Nat) (other : Value) : P ((BuilderCall.shareDraft other).perform id) := by
  refine h.declaring _ ?_
  split
  · rename_i role other
    have hredirect := h.redirect id other
    simp only [Act.draftOf, bind_assoc, pure_bind]
    exact hredirect
  · exact h.throw _

/-- What declares or compiles, or asks for what was declared. -/
theorem perform (id : Nat) {c : BuilderCall} (hc : c.purpose = .declare) : P (c.perform id) := by
  by_cases hties : c.Ties
  · cases c with
    | union member kind => exact h.declaring _ (h.union _ _ _)
    | shareDraft other => exact h.shareDraft _ _
    | _ => exact hties.elim
  · exact h.toMinding.perform id hc hties

end Tending

end Act

end SqlBuilder
