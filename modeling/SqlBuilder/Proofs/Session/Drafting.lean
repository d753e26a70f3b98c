import SqlBuilder.Proofs.Driver.Talk
import SqlBuilder.Proofs.Session.Making
import SqlBuilder.Session.Call

/-!
What declarations are made of: looks at the session, builders that come up, and changes of drafts. A property of these
may depend on which builders may be changed and on those that have come up on the way. It then holds of every
declaration on a builder that may be changed, apart from unions, which change another builder, too.
-/

namespace SqlBuilder

variable {α β : Type}

namespace Draft

open Talk

/-- Whether it succeeds or fails, the change leaves alone what refers to other builders. -/
abbrev LeavesLinks (change : Drafting α) : Prop := Leaves (fun d : Draft => (d.joins, d.unions)) change

theorem leavesLinks_nameTable (lead : Option String) (shortName table : Value) :
    LeavesLinks (nameTable lead shortName table) := by
  refine .bind .get fun d => .bind (.lift _) fun table => ?_
  split
  · refine .bind (.changing fun _ => rfl) fun _ => ?_
    split
    · exact .changing fun _ => rfl
    · exact .throw_bind _ _
  · exact .throw _

theorem leavesLinks_declareTables (lead : Option String) (values : List Value) :
    LeavesLinks (declareTables lead values) := by
  unfold declareTables
  split
  · exact .changing fun _ => rfl
  · refine .bind (.flatMapM (fun v => ?_) _) fun names => .changing fun _ => rfl
    split
    · exact .mapM (fun _ => .bind (leavesLinks_nameTable _ _ _) fun _ => .pure _) _
    · exact .pure _

theorem leavesLinks_addOnDuplicate (data : Value) : LeavesLinks (addOnDuplicate data) := by
  refine .bind .get fun d => .bind (.changing fun _ => rfl) fun _ => ?_
  split
  · exact .throw _
  · exact .pure _

end Draft

/-- The call changes what its builder declares, an aggregate for as long as it executes. -/
def BuilderCall.IsMutation : BuilderCall → Prop
  | setTables _ | nameTable _ _ | select _ | selectDistinct _ | distinctOn _ | condition _ _ _ _ | having _ _ _ _
  | join _ _ _ _ _ | joinUsing _ _ _ | on _ _ _ _ | usingColumns _ | groupBy _ | orderBy _ _ | limit _ | offset _
  | fetchNext _ | lock _ | onDuplicate _ | union _ _ | count _ | aggregate _ _ => True
  | _ => False

namespace Act

/-- The property holds of what declarations are made of. The list has the builders that have come up; these and the
allowed ones may be changed, and have drafts that are targets. -/
structure Declaring (P : List Nat → ∀ {α : Type}, Act α → Prop) (allowed target : Nat → Prop) : Prop where
  making : ∀ {K : List Nat}, Making (P K)
  newBuilder_bind : ∀ {K : List Nat} {β : Type} {role : BuilderRole} {f : Nat → Act β},
    (∀ k, P (k :: K) (f k)) → P K (Act.newBuilder role >>= f)
  draftOf_bind : ∀ {K : List Nat} {β : Type} {k : Nat} {f : Nat → Act β}, (allowed k ∨ k ∈ K) →
    (∀ n, target n → P K (f n)) → P K (Act.draftOf k >>= f)
  /-- A join that the draft gets has one of the new builders, if it has any. -/
  modifyDraftAt : ∀ {K : List Nat} {n : Nat} {f : Draft → Draft}, target n → (∀ d, (f d).unions = d.unions) →
    (∀ d, ∀ j ∈ (f d).joins.getD [], j ∈ d.joins.getD [] ∨ ∀ k, j.builder = some k → k ∈ K) →
    P K (Act.modifyDraftAt n f)
  drafting : ∀ {K : List Nat} {α : Type} {k : Nat} {change : Drafting α}, (allowed k ∨ k ∈ K) →
    Draft.LeavesLinks change → P K (Act.drafting k change)

namespace Declaring

open Declare

variable {P : List Nat → ∀ {α : Type}, Act α → Prop} {allowed target : Nat → Prop} (h : Declaring P allowed target)
  {K : List Nat} {k : Nat}

include h

/-- What refers to other builders is left alone. -/
theorem changing {f : Draft → Draft} (hk : allowed k ∨ k ∈ K) (hjoins : ∀ d, (f d).joins = d.joins)
    (hunions : ∀ d, (f d).unions = d.unions) : P K (Act.modifyDraft k f) :=
  h.draftOf_bind hk fun _ hn => h.modifyDraftAt hn hunions fun d _ hj => .inl (hjoins d ▸ hj)

/-- No join comes in when an entry is dropped. -/
theorem dropReplaced {entries : EntryList α} (hk : allowed k ∨ k ∈ K) (key : Value)
    (hunions : ∀ d place, (entries.set ((entries.get d).map fun xs => xs.eraseIdx place) d).unions = d.unions)
    (hjoins : ∀ d place, ∀ j ∈ (entries.set ((entries.get d).map fun xs => xs.eraseIdx place) d).joins.getD [],
      j ∈ d.joins.getD []) : P K (entries.dropReplaced k key) := by
  refine h.making.bind (h.making.builder _) fun b => ?_
  split
  · refine h.draftOf_bind hk fun n hn => h.making.bind (h.making.draftAt _) fun _ => ?_
    refine h.making.bind (h.making.placeFrom _ _ _ _ _) fun place => ?_
    split
    · refine h.making.bind (h.making.draftAt _) fun d => ?_
      refine h.making.whenever (h.making.throw _) fun _ => ?_
      exact h.modifyDraftAt hn (fun d => hunions d _) fun d j hj => .inl (hjoins d _ j hj)
    · exact h.making.pure _
  · exact h.making.pure _

theorem condition (hk : allowed k ∨ k ∈ K) (joiner : String) (key operator operand : Value) :
    P K (condition k joiner key operator operand) := by
  refine h.making.bind (h.making.withLead _ _ _) fun _ => h.making.bind (h.making.builder _) fun _ => ?_
  split
  · exact h.changing hk (fun _ => rfl) fun _ => rfl
  · refine h.making.bind (h.dropReplaced hk _ (fun _ _ => rfl) fun _ _ _ hj => hj) fun _ => ?_
    exact h.changing hk (fun _ => rfl) fun _ => rfl

theorem having (hk : allowed k ∨ k ∈ K) (key operator operand joiner : Value) :
    P K (having k key operator operand joiner) := by
  refine h.making.bind (h.making.withLead _ _ _) fun _ => ?_
  refine h.making.bind (h.dropReplaced hk _ (fun _ _ => rfl) fun _ _ _ hj => hj) fun _ => ?_
  exact h.changing hk (fun _ => rfl) fun _ => rfl

theorem on (hk : allowed k ∨ k ∈ K) (key operator operand joiner : Value) : P K (on k key operator operand joiner) := by
  refine h.making.bind (h.making.withLead _ _ _) fun _ => ?_
  refine h.making.bind (h.making.withLead _ _ _) fun _ => ?_
  exact h.changing hk (fun _ => rfl) fun _ => rfl

theorem usingColumns (hk : allowed k ∨ k ∈ K) (columns : Value) : P K (usingColumns k columns) := by
  unfold Declare.usingColumns
  split
  · exact h.making.bind (h.making.builder _) fun _ => h.changing hk (fun _ => rfl) fun _ => rfl
  · exact h.making.throw _

/-- The builder of the join has come up before. -/
theorem pushJoin (hk : allowed k ∨ k ∈ K) (kind table : Value) {builder : Option Nat}
    (hbuilder : ∀ b, builder = some b → b ∈ K) : P K (pushJoin k kind table builder) := by
  refine h.making.bind (h.making.withLead _ _ _) fun table => h.making.bind ?_ fun _ => ?_
  · refine h.dropReplaced hk _ (fun _ _ => rfl) fun d place j hj => ?_
    change j ∈ (d.joins.map fun xs => xs.eraseIdx place).getD [] at hj
    cases hjoins : d.joins with
    | none =>
        rw [hjoins] at hj
        cases hj
    | some xs =>
        rw [hjoins] at hj
        exact List.mem_of_mem_eraseIdx hj
  · refine h.draftOf_bind hk fun _ hn => h.modifyDraftAt hn (fun _ => rfl) fun d j hj => ?_
    obtain hold | hnew := List.mem_append.1 hj
    · exact .inl hold
    · obtain rfl := List.mem_singleton.1 hnew
      exact .inr hbuilder

omit h in
/-- With one more builder that has come up. -/
theorem later {conditions : Nat} (hk : allowed k ∨ k ∈ K) : allowed k ∨ k ∈ conditions :: K :=
  hk.imp_right (List.mem_cons_of_mem _)

theorem join (hk : allowed k ∨ k ∈ K) (table key operator operand kind : Value) :
    P K (join k table key operator operand kind) := by
  unfold Declare.join
  split
  · exact h.pushJoin hk _ _ fun _ hb => by cases hb
  · refine h.newBuilder_bind fun conditions => ?_
    have hpush : P (conditions :: K) (Declare.pushJoin k kind table (some conditions)) :=
      h.pushJoin (later hk) _ _ fun b hb => by
        obtain rfl := Option.some.inj hb
        exact List.mem_cons_self
    dsimp only
    split
    · exact h.making.bind (h.making.callOn _ _) fun _ => hpush
    · exact h.making.bind (h.on (.inr List.mem_cons_self) _ _ _ _) fun _ => hpush

theorem joinUsing (hk : allowed k ∨ k ∈ K) (table fields kind : Value) : P K (joinUsing k table fields kind) := by
  refine h.newBuilder_bind fun conditions => ?_
  refine h.making.bind (h.usingColumns (.inr List.mem_cons_self) _) fun _ => ?_
  exact h.pushJoin (later hk) _ _ fun b hb => by
    obtain rfl := Option.some.inj hb
    exact List.mem_cons_self

theorem orderBy (hk : allowed k ∨ k ∈ K) (fields direction : Value) : P K (orderBy k fields direction) := by
  refine h.making.forM (fun (field, direction) => ?_) _
  refine h.making.bind (h.making.withLead _ _ _) fun _ => ?_
  refine h.making.bind (h.dropReplaced hk _ (fun _ _ => rfl) fun _ _ _ hj => hj) fun _ => ?_
  refine h.making.bind (h.changing hk (fun _ => rfl) fun _ => rfl) fun _ => ?_
  split
  · exact h.changing hk (fun _ => rfl) fun _ => rfl
  · exact h.making.throw _

theorem setTables (hk : allowed k ∨ k ∈ K) (tables : List Value) : P K (setTables k tables) :=
  h.making.bind (h.making.builder _) fun _ => h.drafting hk (Draft.leavesLinks_declareTables _ _)

/-- What follows may change the new builder, or the one that has lost its tables. -/
theorem table_bind (hk : allowed k ∨ k ∈ K) (tables : List Value) {f : Nat → Act β}
    (hf : ∀ k K, (allowed k ∨ k ∈ K) → P K (f k)) : P K (table k tables >>= f) := by
  unfold Declare.table
  split
  · rw [bind_assoc]
    exact h.making.bind (h.setTables hk _) fun _ => hf k K hk
  · simp only [Declare.newQuery, bind_assoc, pure_bind]
    refine h.making.bind (h.making.builder _) fun b => h.newBuilder_bind fun fresh => ?_
    exact h.making.bind (h.setTables (.inr List.mem_cons_self) _) fun _ =>
      hf fresh (fresh :: K) (.inr List.mem_cons_self)

/-- A call that gives the builder that it was made on. -/
theorem declaring (k : Nat) {change : Act Unit} (hchange : P K change) : P K (BuilderCall.declaring k change) :=
  h.making.bind hchange fun _ => h.making.builderValue _

theorem changingCall (hk : allowed k ∨ k ∈ K) {f : Builder → Draft → Draft} (hjoins : ∀ b d, (f b d).joins = d.joins)
    (hunions : ∀ b d, (f b d).unions = d.unions) : P K (BuilderCall.changing k f) :=
  h.making.bind (h.making.builder _) fun b => h.declaring k (h.changing hk (hjoins b) (hunions b))

/-- All calls that declare something on the builder, if it may be changed. -/
theorem perform {c : BuilderCall} (hc : c.IsMutation) (hk : allowed k ∨ k ∈ K)
    (hunion : ∀ member kind, c = .union member kind → P K (Declare.union k member kind))
    (hcount : ∀ field, c = .count field → P K (Execute.count k field))
    (haggregate : ∀ function field, c = .aggregate function field → P K (Execute.aggregate k function.name field)) :
    P K (c.perform k) := by
  cases c with
  | setTables tables => exact h.declaring _ (h.setTables hk _)
  | nameTable shortName named =>
      refine h.declaring _ (h.making.bind (h.making.builder _) fun _ => ?_)
      exact h.drafting hk (Draft.leavesLinks_nameTable _ _ _)
  | condition joiner key operator operand => exact h.declaring _ (h.condition hk _ _ _ _)
  | having key operator operand joiner => exact h.declaring _ (h.having hk _ _ _ _)
  | join table key operator operand kind => exact h.declaring _ (h.join hk _ _ _ _ _)
  | joinUsing table fields kind => exact h.declaring _ (h.joinUsing hk _ _ _)
  | on key operator operand joiner => exact h.declaring _ (h.on hk _ _ _ _)
  | usingColumns columns => exact h.declaring _ (h.usingColumns hk _)
  | orderBy fields direction => exact h.declaring _ (h.orderBy hk _ _)
  | onDuplicate data => exact h.declaring _ (h.drafting hk (Draft.leavesLinks_addOnDuplicate _))
  | union member kind => exact h.declaring _ (hunion member kind rfl)
  | count field => exact hcount field rfl
  | aggregate function field => exact haggregate function field rfl
  | select | selectDistinct | distinctOn | groupBy | limit | offset | fetchNext | lock =>
      exact h.changingCall hk (fun _ _ => rfl) fun _ _ => rfl
  | _ => cases hc

end Declaring

end Act

end SqlBuilder
