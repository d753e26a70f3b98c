import SqlBuilder.Proofs.Session.Scope
import SqlBuilder.Session.Execute

/-!
What the compilation and the preparation of statements are made of: looks at the session, new builders, and the scripts
of groups and hooks. A property that these have, and that goes over to what is put together from them, holds of all
compilations, of the search for what a new declaration takes the place of, and of the hooks of an event.
-/

namespace SqlBuilder.Act

variable {α : Type}

/-- A property of all that statements are compiled and prepared with. -/
structure Making (P : ∀ {α : Type}, Act α → Prop) : Prop extends Modular P where
  throw : ∀ {α : Type} (fault : Fault), P (MonadExcept.throw fault : Act α)
  lift : ∀ {α : Type} (outcome : Except Fault α), P (Act.lift outcome)
  builder : ∀ id, P (Act.builder id)
  draftAt : ∀ number, P (Act.draftAt number)
  dialect : P Act.dialect
  /-- Of the surroundings only the depth is looked at. -/
  depth_bind : ∀ {β : Type} {k : Surroundings → Act β}, (∀ env, P (k env)) →
    (∀ env env' : Surroundings, env'.depth = env.depth → k env' = k env) → P (MonadReader.read >>= k)
  newBuilder : ∀ role, P (Act.newBuilder role)
  fill : ∀ script target, P (Act.fill script target)
  notify : ∀ name script call, P (do (← MonadReader.read).notify name script call : Act Value)
  hookFor : ∀ event table, P (Execute.hookFor event table)
  issued : ∀ q, P (Act.issued q)
  remember : ∀ i, P (Execute.remember i)

/-- Copies are put together from looks at builders, and from new drafts and builders. -/
theorem Modular.clone {P : ∀ {α : Type}, Act α → Prop} (h : Modular P)
    (hthrow : ∀ fault, P (MonadExcept.throw fault : Act Nat)) (hbuilder : ∀ id, P (Act.builder id))
    (hdraft : ∀ id, P (Act.draft id)) (haddDraft : ∀ d, P (Act.addDraft d))
    (haddBuilder : ∀ b, P (Act.addBuilder b)) (depth id : Nat) : P (Declare.clone depth id) := by
  induction depth generalizing id with
  | zero => exact hthrow _
  | succ depth ih =>
      refine h.bind (hbuilder _) fun _ => h.bind (hdraft _) fun _ => h.bind ?_ fun _ => ?_
      · refine h.optionMapM (fun joins => h.mapM (fun j => ?_) joins) _
        exact h.bind (h.optionMapM ih _) fun _ => h.pure _
      · exact h.bind (haddDraft _) fun _ => haddBuilder _

namespace Making

variable {P : ∀ {α : Type}, Act α → Prop} (h : Making P)

include h

theorem check (outcome : Except Fault α) : P (Act.check outcome) := h.bind (h.lift _) fun _ => h.pure _

theorem builderValue (id : Nat) : P (Act.builderValue id) := h.bind (h.builder id) fun _ => h.pure _

theorem draftOf (id : Nat) : P (Act.draftOf id) := h.bind (h.builder id) fun _ => h.pure _

theorem draft (id : Nat) : P (Act.draft id) := h.bind (h.draftOf id) h.draftAt

theorem fillBuilder (script id : Nat) : P (Act.fillBuilder script id) :=
  h.bind (h.builderValue id) fun _ => h.fill script _

/-! ### Compilation -/

section Resolve

open Resolve

variable {β : Type}

theorem each {list : Draft → Option (List α)} {make : Nat → α → Act β} (draft : Nat)
    (hmake : ∀ place x, P (make place x)) : P (Resolve.each list draft make) := by
  have hfrom : ∀ fuel place, P (eachFrom list draft make fuel place) := by
    intro fuel
    induction fuel with
    | zero => exact fun _ => h.throw _
    | succ fuel ih =>
        intro place
        refine h.bind (h.draftAt draft) fun d => ?_
        split
        · exact h.pure _
        · exact h.bind (hmake _ _) fun _ => h.bind (ih _) fun _ => h.pure _
  exact h.bind (h.draftAt draft) fun _ => hfrom _ 0

theorem criterion {members : Nat → Act (List Condition)} (hmembers : ∀ script, P (members script))
    (isFirst : Bool) (c : Criterion) : P (Resolve.criterion members isFirst c) := by
  refine h.bind (h.lift _) fun joint => ?_
  split
  · exact h.pure _
  · split
    · split
      · exact h.bind (hmembers _) fun _ => h.pure _
      · exact h.throw _
      · exact h.throw _
    · exact h.pure _

theorem criteria {members : Nat → Act (List Condition)} (hmembers : ∀ script, P (members script))
    (qualifier : Option String) (isBound : Bool) (list : Draft → Option (List Criterion)) (draft : Nat) :
    P (Resolve.criteria members qualifier isBound list draft) := by
  refine h.bind (h.each draft fun place c => ?_) fun made => ?_
  · exact h.bind (h.criterion hmembers _ c) fun _ => h.bind h.dialect fun _ => h.bind (h.check _) fun _ => h.pure _
  · exact h.whenever (h.throw _) fun _ => h.pure _

theorem members (depth script : Nat) : P (Resolve.members depth script) := by
  induction depth generalizing script with
  | zero => exact h.throw _
  | succ depth ih =>
      exact h.bind (h.newBuilder _) fun _ => h.bind (h.fillBuilder _ _) fun _ =>
        h.bind (h.draftOf _) fun _ => h.criteria ih _ _ _ _

theorem join (depth : Nat) (j : DraftJoin) : P (Resolve.join depth j) := by
  refine h.bind h.dialect fun _ => h.bind (h.check _) fun _ => h.bind ?_ fun _ => ?_
  · exact h.optionMapM (fun _ => h.bind (h.draftOf _) fun _ => h.criteria (h.members depth) _ _ _ _) _
  · split
    · exact h.bind (h.check _) fun _ => h.pure _
    · exact h.throw _

theorem joins (depth draft : Nat) : P (Resolve.joins depth draft) := h.each draft fun _ => h.join depth

theorem bound (depth : Nat) (qualifier : Option String) (list : Draft → Option (List Criterion))
    (draft : Nat) : P (Resolve.bound depth qualifier list draft) := h.criteria (h.members depth) _ _ _ _

theorem groupBys (draft : Nat) : P (Resolve.groupBys draft) :=
  h.bind (h.draftAt _) fun _ => h.bind h.dialect fun _ => h.bind (h.check _) fun _ => h.pure _

theorem orderBys (draft : Nat) : P (Resolve.orderBys draft) :=
  h.bind (h.draftAt _) fun _ => h.bind h.dialect fun _ => h.bind (h.check _) fun _ => h.pure _

theorem selectClauses (depth draft : Nat) : P (Resolve.selectClauses depth draft) := by
  refine h.bind h.dialect fun _ => h.bind (h.draftAt _) fun _ => ?_
  refine h.bind (h.check _) fun _ => h.bind (h.check _) fun _ => h.bind (h.lift _) fun _ => ?_
  refine h.bind (h.joins _ _) fun _ => h.bind (h.bound _ _ _ _) fun _ => ?_
  refine h.bind (h.groupBys _) fun _ => h.bind (h.bound _ _ _ _) fun _ => ?_
  refine h.bind (h.orderBys _) fun _ => h.bind (h.draftAt _) fun _ => ?_
  exact h.bind (h.check _) fun _ => h.pure _

theorem select (depth id : Nat) : P (Resolve.select depth id) := by
  induction depth generalizing id with
  | zero => exact h.throw _
  | succ depth ih =>
      refine h.bind (h.draftOf _) fun _ => h.bind (h.selectClauses _ _) fun _ => h.bind ?_ fun _ => h.pure _
      exact h.each _ fun _ _ => h.bind (ih _) fun _ => h.pure _

theorem updateClauses (depth draft : Nat) (data : Value) : P (Resolve.updateClauses depth draft data) := by
  refine h.bind h.dialect fun _ => h.bind (h.draftAt _) fun _ => h.whenever (h.throw _) fun _ => ?_
  refine h.bind (h.lift _) fun _ => h.bind (h.lift _) fun _ => h.bind (h.check _) fun _ => ?_
  refine h.bind (h.joins _ _) fun _ => ?_
  split
  · refine h.bind (h.check _) fun _ => h.bind (h.bound _ _ _ _) fun _ => ?_
    exact h.bind (h.groupBys _) fun _ => h.bind (h.orderBys _) fun _ => h.bind (h.draftAt _) fun _ => h.pure _
  · exact h.throw _

theorem deleteClauses (depth draft : Nat) : P (Resolve.deleteClauses depth draft) := by
  refine h.bind (h.draftAt _) fun _ => h.bind (h.check _) fun _ => h.bind (h.joins _ _) fun _ => ?_
  refine h.bind (h.bound _ _ _ _) fun _ => h.bind (h.groupBys _) fun _ => ?_
  exact h.bind (h.orderBys _) fun _ => h.bind (h.draftAt _) fun _ => h.pure _

end Resolve

theorem compile (id : Nat) (request : StatementRequest) : P (SqlBuilder.compile id request) := by
  refine h.bind h.dialect fun d => h.depth_bind (fun env => h.bind (h.draftOf _) fun _ => ?_)
    fun _ _ hdepth => by simp only [hdepth]
  cases request with
  | select => exact h.bind (h.select _ _) fun _ => h.lift _
  | insert verb data => exact h.bind (h.draftAt _) fun _ => h.lift _
  | update data => exact h.bind (h.updateClauses _ _ _) fun _ => h.lift _
  | delete columns => exact h.bind (h.deleteClauses _ _) fun _ => h.lift _
  | conditions isBound => exact h.bind (h.criteria (h.members _) _ _ _ _) fun _ => h.lift _

/-! ### Declarations -/

theorem callOn (callable : Value) (id : Nat) : P (Declare.callOn callable id) := by
  unfold Declare.callOn
  split
  · exact h.fillBuilder _ _
  · exact h.throw _
  · exact h.throw _

theorem placeFrom (entries : Declare.EntryList α) (draft : Nat) (key : Value) (fuel place : Nat) :
    P (entries.placeFrom draft key fuel place) := by
  induction fuel generalizing place with
  | zero => exact h.throw _
  | succ fuel ih =>
      refine h.bind (h.draftAt _) fun d => ?_
      split
      · exact h.pure _
      · rename_i current _
        have hnext : ∀ x : Unit, P (if current.same key then pure (some place)
            else entries.placeFrom draft key fuel (place + 1)) := by
          intro _
          split
          · exact h.pure _
          · exact ih _
        dsimp only
        split
        · refine h.bind (h.newBuilder _) fun _ => h.bind (h.callOn _ _) fun _ => h.bind (h.draft _) fun _ => ?_
          split
          · exact h.pure _
          · exact hnext ()
        · exact hnext ()

theorem withLead (id : Nat) (scope : NameScope) (v : Value) : P (Declare.withLead id scope v) :=
  h.bind (h.builder _) fun _ => h.pure _

theorem newQuery (id : Nat) : P (Declare.newQuery id) := h.bind (h.builder _) fun _ => h.newBuilder _

/-- A union changes drafts alone. -/
theorem union (hmodify : ∀ id (f : Draft → Draft), P (Act.modifyDraft id f)) (id : Nat) (member kind : Value) :
    P (Declare.union id member kind) := by
  refine h.bind (h.lift _) fun _ => ?_
  split
  · refine h.bind (h.draft _) fun _ => ?_
    dsimp only
    split
    · exact hmodify _ _
    · exact h.bind (hmodify _ _) fun _ => h.bind (hmodify _ _) fun _ => hmodify _ _
  · exact h.throw _

theorem subQuery (member shortName : Value) : P (Declare.subQuery member shortName) := by
  unfold Declare.subQuery
  split
  · refine h.bind (h.compile _ _) fun _ => ?_
    split
    · exact h.pure _
    · exact h.bind h.dialect fun _ => h.bind (h.lift _) fun _ => h.pure _
  · exact h.throw _

theorem view (depth id : Nat) : P (Declare.view depth id) := by
  induction depth generalizing id with
  | zero => exact h.throw _
  | succ depth ih =>
      refine h.bind (h.draft _) fun _ => h.bind ?_ fun _ => h.bind ?_ fun _ => h.pure _
      · exact h.mapM (fun _ => h.bind (h.optionMapM ih _) fun _ => h.pure _) _
      · exact h.mapM (fun _ => ih _) _

/-! ### The preparation of statements -/

theorem runHook (hook : Value) (call : HookCall) : P (Execute.runHook hook call) := by
  unfold Execute.runHook
  split
  · exact h.notify _ _ _
  · exact h.bind (h.fill _ _) fun _ => h.pure _
  · exact h.throw _

theorem fire (id : Nat) (event : EventKind) (statement : Option Issued) (arguments : Value) :
    P (Execute.fire id event statement arguments) := by
  refine h.bind (h.draft _) fun _ => h.bind (h.mapM (fun table => ?_) _) fun _ => h.pure _
  refine h.bind (h.hookFor _ _) fun _ => ?_
  split
  · exact h.pure _
  · exact h.bind (h.check _) fun _ => h.bind (h.lift _) fun _ => h.runHook _ _

theorem prepare (id : Nat) (request : StatementRequest) : P (Execute.prepare id request) :=
  h.bind (h.compile _ _) fun _ => h.bind (h.issued _) fun _ => h.bind (h.remember _) fun _ => h.pure _

end Making

/-- A relation that allows new builders and a last statement to remember. Nothing else changes the session but the
scripts. -/
theorem Keeps.making {R : Session → Session → Prop} {env : Surroundings} [IsPreorder Session R] [env.Keeps R]
    (hnew : ∀ role, Keeps R env (Act.newBuilder role)) (hremember : ∀ i, Keeps R env (Execute.remember i)) :
    Making (Keeps R env) where
  toModular := modular
  throw := throw
  lift := lift
  builder := builder
  draftAt _ := bind get fun _ => pure _
  dialect := bind (bind get fun _ => pure _) fun _ => pure _
  depth_bind hk _ := read_bind (hk _)
  newBuilder := hnew
  fill script target s := Surroundings.Keeps.fill script target s
  notify name script call s := Surroundings.Keeps.notify name script call s
  hookFor event table := by
    unfold Execute.hookFor
    split
    · exact pure _
    · exact bind (lift _) fun _ => bind get fun _ => pure _
  issued _ := bind get fun _ => pure _
  remember := hremember

end SqlBuilder.Act
