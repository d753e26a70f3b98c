import SqlBuilder.Proofs.Session.Extending

/-!
Builders of a transaction that has ended. An operation on such a builder is barred: either it fails because the scope
is closed, or it ends as it would with the scope open, and in both cases it is quiet apart from the scripts of groups
and hooks.
-/

namespace SqlBuilder

open Act Session

variable {α β : Type} {env : Surroundings} {s t : Session} {scope : Nat} {status : TransactionStatus}

/-! ### A closed scope and the same scope open -/

namespace Session

def reopened (s : Session) (scope : Nat) : Session := s.rescope fun scopes => scopes.modify scope fun _ => none

def closedAs (s : Session) (scope : Nat) (status : TransactionStatus) : Session :=
  s.rescope fun scopes => scopes.modify scope fun _ => some status

theorem closedAs_reopened (h : s.Closed scope status) : (s.reopened scope).closedAs scope status = s := by
  have hscopes : (s.scopes.modify scope fun _ => none).modify scope (fun _ => some status) = s.scopes := by
    apply Array.ext_getElem?
    intro place
    rw [Array.getElem?_modify, Array.getElem?_modify]
    by_cases hplace : scope = place
    · subst hplace
      rw [if_pos rfl, if_pos rfl, h]
      rfl
    · rw [if_neg hplace, if_neg hplace]
  unfold closedAs reopened rescope
  dsimp only
  rw [hscopes]

/-- The builder works in a scope that has ended. -/
structure Shut (s : Session) (scope : Nat) (status : TransactionStatus) (id : Nat) : Prop where
  closed : s.Closed scope status
  inScope : s.InScope scope id

/-- The builder works in the scope and has no result that is pending. -/
def Idle (s : Session) (scope id : Nat) : Prop :=
  ∃ b : Builder, s.builders[id]? = some b ∧ b.role = .transaction scope ∧ b.pending = none

theorem Idle.inScope {id : Nat} (h : s.Idle scope id) : s.InScope scope id := h.imp fun _ hb => ⟨hb.1, hb.2.1⟩

/-- Once the scope has ended, no result gets pending. -/
theorem Idle.later {id : Nat} (h : s.Idle scope id) (hs : s.Closed scope status) (ht : Extends s t) :
    t.Idle scope id := by
  obtain ⟨b, hb, hrole, hpending⟩ := h
  obtain ⟨b', hb', hrole', hkept⟩ := ht.builders id b hb
  exact ⟨b', hb', hrole'.trans hrole, hkept scope status hrole hs hpending⟩

theorem Shut.later {id : Nat} (h : s.Shut scope status id) (ht : Extends s t) : t.Shut scope status id :=
  ⟨ht.closed _ _ h.closed, ht.inScope h.inScope⟩

end Session

/-- Surroundings whose scripts find the scope closed and leave it open. -/
def Surroundings.whileClosed (env : Surroundings) (scope : Nat) (status : TransactionStatus) : Surroundings where
  fill script target := ExceptT.mk fun s =>
    Prod.map id (·.reopened scope) ((env.fill script target).run.run (s.closedAs scope status))
  notify name script call := ExceptT.mk fun s =>
    Prod.map id (·.reopened scope) ((env.notify name script call).run.run (s.closedAs scope status))
  depth := env.depth

/-- A closed scope in the guise of an open one, which the scripts see through. -/
def Guise.reopened (env : Surroundings) [env.Keeps Extends] (scope : Nat) (status : TransactionStatus) :
    Guise env where
  view scopes := scopes.modify scope fun _ => none
  other := env.whileClosed scope status
  holds s := s.Closed scope status
  holds_of_scripted _ _ hs h := h.extends.closed _ _ hs
  fill script target s hs := by
    change Prod.map id (·.reopened scope)
      ((env.fill script target).run.run ((s.reopened scope).closedAs scope status)) = _
    rw [closedAs_reopened hs]
    rfl
  notify name script call s hs := by
    change Prod.map id (·.reopened scope)
      ((env.notify name script call).run.run ((s.reopened scope).closedAs scope status)) = _
    rw [closedAs_reopened hs]
    rfl
  depth := rfl

namespace Act

variable {id : Nat}

/-- From the given state on, the operation fails because the scope is closed, or it ends as it would with the scope
open, and apart from scripts it is quiet. -/
structure BarredAt (env : Surroundings) (scope : Nat) (status : TransactionStatus) (op : Act α) (s : Session) :
    Prop where
  scripted : Scripted env s (op.exec env s).2
  outcome : (op.exec env s).1 = .error (.sql (.scopeClosed status)) ∨
    op.exec (env.whileClosed scope status) (s.reopened scope) =
      ((op.exec env s).1, (op.exec env s).2.reopened scope)

/-- The operation is barred as long as the builder works in the scope and the scope is closed. -/
def Barred (env : Surroundings) (scope : Nat) (status : TransactionStatus) (id : Nat) (op : Act α) : Prop :=
  ∀ s, s.Shut scope status id → BarredAt env scope status op s

/-- The operation is barred, and it fails. -/
structure Refused (env : Surroundings) (scope : Nat) (status : TransactionStatus) (id : Nat) (op : Act α) :
    Prop where
  barred : Barred env scope status id op
  fails : ∀ s, s.Shut scope status id → ∀ x, (op.exec env s).1 ≠ .ok x

theorem BarredAt.get_bind {k : Session → Act β} (hk : BarredAt env scope status (k s) s)
    (hview : k (s.reopened scope) = k s) : BarredAt env scope status (get >>= k) s := by
  obtain ⟨hscripted, houtcome⟩ := hk
  constructor
  · rw [exec_bind, exec_get]
    exact hscripted
  · rw [exec_bind, exec_get, exec_bind, exec_get]
    dsimp only
    rw [hview]
    exact houtcome

/-- What follows a look at the surroundings may depend on their depth. -/
theorem BarredAt.depth_bind {k : Surroundings → Act β} (hk : BarredAt env scope status (k env) s)
    (hdepth : ∀ other : Surroundings, other.depth = env.depth → k other = k env) :
    BarredAt env scope status (read >>= k) s := by
  obtain ⟨hscripted, houtcome⟩ := hk
  constructor
  · rw [exec_bind, exec_read]
    exact hscripted
  · rw [exec_bind, exec_read, exec_bind, exec_read]
    dsimp only
    rw [hdepth (env.whileClosed scope status) rfl]
    exact houtcome

theorem Refused.get_bind {k : Session → Act β} (hk : ∀ s, Refused env scope status id (k s))
    (hview : ∀ s, k (s.reopened scope) = k s) : Refused env scope status id (get >>= k) := by
  refine ⟨fun s hs => .get_bind ((hk s).barred s hs) (hview s), fun s hs => ?_⟩
  rw [exec_bind, exec_get]
  exact (hk s).fails s hs

variable [env.Keeps Extends]

theorem BarredAt.bind {op : Act α} {k : α → Act β} (hop : BarredAt env scope status op s)
    (hk : ∀ x t, op.exec env s = (.ok x, t) → Extends s t → BarredAt env scope status (k x) t) :
    BarredAt env scope status (op >>= k) s := by
  obtain ⟨hscripted, houtcome⟩ := hop
  rcases hr : op.exec env s with ⟨outcome, t⟩
  rw [hr] at hscripted houtcome
  cases outcome with
  | error fault =>
      constructor
      · rw [exec_bind_error hr]
        exact hscripted
      · refine houtcome.imp (fun hfault => ?_) fun hsame => ?_
        · rw [exec_bind_error hr]
          injection hfault with hfault
          rw [hfault]
        · rw [exec_bind_error hr, exec_bind_error hsame]
  | ok x =>
      have hkt := hk x t hr hscripted.extends
      have hsame := houtcome.resolve_left fun h => nomatch h
      constructor
      · rw [exec_bind_ok hr]
        exact hscripted.trans hkt.scripted
      · rw [exec_bind_ok hr, exec_bind_ok hsame]
        exact hkt.outcome

namespace Barred

theorem blind {op : Act α} (h : ∀ g : Guise env, Blind g op) : Barred env scope status id op := by
  intro s hs
  have hop := h (.reopened env scope status) s hs.closed
  exact ⟨hop.scripted, .inr hop.same⟩

theorem bind {op : Act α} {k : α → Act β} (hop : Barred env scope status id op)
    (hk : ∀ x, Barred env scope status id (k x)) : Barred env scope status id (op >>= k) :=
  fun s hs => (hop s hs).bind fun x t _ ht => hk x t (hs.later ht)

/-- An operation with another one behind it that is made in any case and succeeds. -/
theorem andFinally {op : Act α} {final : Act Unit} (hop : Barred env scope status id op)
    (hfinal : ∀ g : Guise env, Blind g final)
    (hok : ∀ t, t.Shut scope status id → (final.exec env t).1 = .ok ()) :
    Barred env scope status id (do
      let outcome ← tryCatch (do pure (Except.ok (← op))) fun fault => pure (.error fault)
      final
      Act.lift outcome) := by
  intro s hs
  obtain ⟨hscripted, houtcome⟩ := hop s hs
  have ht := hs.later hscripted.extends
  obtain ⟨hscripted', hsame'⟩ := hfinal (.reopened env scope status) _ ht.closed
  have hend : final.exec env (op.exec env s).2 = (.ok (), (final.exec env (op.exec env s).2).2) :=
    Prod.ext (hok _ ht) rfl
  rw [hend] at hsame'
  constructor
  · rw [exec_bind_ok (exec_observed op), exec_bind_ok hend, exec_lift]
    exact hscripted.trans hscripted'
  · rw [exec_bind_ok (exec_observed op), exec_bind_ok hend, exec_lift]
    refine houtcome.imp (fun hfault => hfault) fun hsame => ?_
    rw [exec_bind_ok (exec_observed op), hsame]
    exact (exec_bind_ok hsame').trans (exec_lift _)

theorem modular : Modular (Barred env scope status id) := ⟨fun _ => blind fun _ => .pure _, bind⟩

end Barred

namespace Refused

theorem throw (fault : Fault) : Refused env scope status id (MonadExcept.throw fault : Act α) :=
  ⟨.blind fun _ => .throw fault, fun _ _ _ h => nomatch h⟩

/-- What an operation that may succeed is followed by decides. -/
theorem after {op : Act α} {k : α → Act β} (hop : Barred env scope status id op)
    (hk : ∀ x, Refused env scope status id (k x)) : Refused env scope status id (op >>= k) := by
  refine ⟨.bind hop fun x => (hk x).barred, fun s hs y hy => ?_⟩
  obtain ⟨x, t, hx, hkx⟩ := exec_bind_eq_ok (Prod.ext hy rfl)
  have ht : Extends s t := by
    have hscripted := (hop s hs).scripted
    rw [hx] at hscripted
    exact hscripted.extends
  exact (hk x).fails t (hs.later ht) y (congrArg Prod.fst hkx)

/-- Nothing follows an operation that fails. -/
theorem bind {op : Act α} {k : α → Act β} (hop : Refused env scope status id op) :
    Refused env scope status id (op >>= k) := by
  constructor
  · intro s hs
    refine (hop.barred s hs).bind fun x t h _ => ?_
    exact absurd (congrArg Prod.fst h) (hop.fails s hs x)
  · intro s hs y hy
    obtain ⟨x, t, hx, -⟩ := exec_bind_eq_ok (Prod.ext hy rfl)
    exact hop.fails s hs x (congrArg Prod.fst hx)

end Refused

end Act

/-! ### Builders that stem from others -/

namespace Declare

variable {id fresh : Nat}

theorem newBuilder_idle (h : (Act.newBuilder (.transaction scope)).exec env s = (.ok fresh, t)) :
    t.Idle scope fresh := by
  obtain ⟨draft, u, hdraft, hrest⟩ := exec_bind_eq_ok h
  obtain ⟨u', v, hget, hadd⟩ := exec_bind_eq_ok hrest
  cases hadd
  exact ⟨_, Array.getElem?_push_size, rfl, rfl⟩

/-- A new builder for the same purpose works in the same scope. -/
theorem newQuery_idle (hid : s.InScope scope id) (h : (newQuery id).exec env s = (.ok fresh, t)) :
    t.Idle scope fresh := by
  obtain ⟨b, hb, hrole⟩ := hid
  obtain ⟨b', u, hb', hnew⟩ := exec_bind_eq_ok h
  obtain ⟨hb', rfl⟩ := exec_builder_eq_ok hb'
  obtain rfl : b = b' := Option.some.inj (hb.symm.trans hb')
  rw [hrole] at hnew
  exact newBuilder_idle hnew

/-- The copy of a builder works in the same scope. A pending result is not copied. -/
theorem clone_idle (depth : Nat) (hid : s.InScope scope id) (h : (clone depth id).exec env s = (.ok fresh, t)) :
    t.Idle scope fresh := by
  cases depth with
  | zero => cases h
  | succ depth =>
      obtain ⟨b, hb, hrole⟩ := hid
      obtain ⟨b', u, hb', hrest⟩ := exec_bind_eq_ok h
      obtain ⟨hb', rfl⟩ := exec_builder_eq_ok hb'
      obtain rfl : b = b' := Option.some.inj (hb.symm.trans hb')
      obtain ⟨d, u, -, hrest⟩ := exec_bind_eq_ok hrest
      obtain ⟨joins, v, -, hrest⟩ := exec_bind_eq_ok hrest
      obtain ⟨draft, w, -, hadd⟩ := exec_bind_eq_ok hrest
      cases hadd
      exact ⟨_, Array.getElem?_push_size, hrole, rfl⟩

/-- The builder for tables is the builder itself, or a new one for the same purpose. -/
theorem table_eq_ok [env.Keeps Extends] {tables : List Value} (hid : s.InScope scope id)
    (h : (table id tables).exec env s = (.ok fresh, t)) :
    fresh = id ∨ ∃ u, Extends s u ∧ u.Idle scope fresh ∧ Extends u t := by
  unfold table at h
  split at h
  · obtain ⟨_, u, hset, hrest⟩ := exec_bind_eq_ok h
    cases hrest
    exact .inl rfl
  · obtain ⟨fresh', u, hnew, hrest⟩ := exec_bind_eq_ok h
    obtain ⟨_, v, hset, hrest⟩ := exec_bind_eq_ok hrest
    cases hrest
    exact .inr ⟨u, (Keeps.blind (blind_newQuery _)).of_exec hnew, newQuery_idle hid hnew,
      (Keeps.blind (blind_setTables _ _)).of_exec hset⟩

theorem table_inScope [env.Keeps Extends] {tables : List Value} (hid : s.InScope scope id)
    (h : (table id tables).exec env s = (.ok fresh, t)) : t.InScope scope fresh := by
  obtain rfl | ⟨u, -, hidle, ht⟩ := table_eq_ok hid h
  · exact Extends.inScope ((Keeps.blind (blind_table _ _)).of_exec h) hid
  · exact ht.inScope hidle.inScope

/-- The builder for tables has no pending result, if the builder itself has none. -/
theorem table_idle [env.Keeps Extends] {tables : List Value} (hs : s.Closed scope status) (hid : s.Idle scope id)
    (h : (table id tables).exec env s = (.ok fresh, t)) : t.Idle scope fresh := by
  obtain rfl | ⟨u, hu, hidle, ht⟩ := table_eq_ok hid.inScope h
  · exact hid.later hs ((Keeps.blind (blind_table _ _)).of_exec h)
  · exact hidle.later (hu.closed _ _ hs) ht

end Declare

/-! ### Executions -/

namespace Execute

variable {id : Nat}

theorem refused_requireOpen : Refused env scope status id (requireOpen id) := by
  constructor
  · intro s hs
    have hclosed : (requireOpen id).exec env s = _ := requireOpen_closed hs.inScope hs.closed
    constructor
    · rw [hclosed]
      exact refl_of _ s
    · exact .inl (by rw [hclosed])
  · intro s hs x hx
    rw [requireOpen_closed hs.inScope hs.closed] at hx
    cases hx

variable [env.Keeps Extends]

theorem refused_statement (sql values : Value) : Refused env scope status id (statement id sql values) :=
  refused_requireOpen.bind

theorem refused_around (before after : EventKind) (i : Issued) :
    Refused env scope status id (around id before after i) :=
  .after (.blind fun _ => blind_fire _ _ _ _) fun _ => (refused_statement _ _).bind

theorem refused_query (sql values : Value) : Refused env scope status id (query id sql values) := by
  refine .after (.blind fun _ => .lift _) fun values => .get_bind (fun s => ?_) fun _ => rfl
  exact .after (.blind fun _ => blind_remember _) fun _ => (refused_around _ _ _).bind

/-- Apart from a result that is pending, the rows are refused. -/
theorem barred_selectRows : Barred env scope status id (selectRows id) := by
  refine .bind (.blind fun _ => blind_prepare _ _) fun early => .bind (.blind fun _ => blind_fire _ _ _ _) fun _ => ?_
  refine .bind (.blind fun _ => blind_prepare _ _) fun i => .bind (.blind fun _ => .builder _) fun b => ?_
  dsimp only
  split
  · exact (refused_statement _ _).bind.barred
  · refine .blind fun _ => .bind (.modifyBuilder _ ?_ ?_) fun _ => .bind (.pure _) fun _ => ?_
    · exact fun _ => rfl
    · exact fun _ _ => rfl
    · exact .bind (blind_fire _ _ _ _) fun _ => .pure _

theorem barred_fetchAll : Barred env scope status id (fetchAll id) := by
  refine .bind barred_selectRows fun rows => .blind fun _ => .bind (.builder _) fun _ => ?_
  dsimp only
  split
  · exact .pure _
  · exact .lift _

theorem barred_first : Barred env scope status id (first id) :=
  .bind (.blind fun _ => .modifyDraft _ _) fun _ => .bind barred_fetchAll fun _ => .blind fun _ => .pure _

/-- The projection that is put aside comes back, whatever becomes of the operation. -/
theorem barred_withProjection (projection : List Field) {operation : Act α}
    (hop : Barred env scope status id operation) :
    Barred env scope status id (withProjection id projection operation) := by
  refine .bind (.blind fun _ => .draft _) fun d => .bind (.blind fun _ => .modifyDraft _ _) fun _ => ?_
  refine .andFinally hop (fun _ => .modifyDraft _ _) fun t ht => ?_
  obtain ⟨b, hb, -⟩ := ht.inScope
  rw [exec_modifyDraft hb]

theorem barred_expressionRows (expression : Value) : Barred env scope status id (expressionRows id expression) := by
  refine .bind (.blind fun _ => .draft _) fun d => ?_
  split
  · refine .bind (.blind fun _ => .builderValue _) fun v => ?_
    refine .bind (.blind fun _ => Declare.blind_subQuery _ _) fun wrapped s hs => ?_
    refine (Barred.blind (fun _ => Declare.blind_table _ _) s hs).bind fun wrapper t htable ht => ?_
    have hwrapper : t.Shut scope status wrapper :=
      ⟨(hs.later ht).closed, Declare.table_inScope hs.inScope htable⟩
    have hrest : Barred env scope status wrapper (do
        let b ← Act.builder wrapper
        Act.modifyDraft wrapper (Draft.select b.lead b.overwriting.isTruthy [expression])
        selectRows wrapper) :=
      .bind (.blind fun _ => .builder _) fun _ => .bind (.blind fun _ => .modifyDraft _ _) fun _ => barred_selectRows
    exact hrest t hwrapper
  · exact barred_withProjection _ barred_selectRows

theorem barred_aggregate (function : String) (field : Value) :
    Barred env scope status id (aggregate id function field) := by
  refine .bind (.blind fun _ => .draft _) fun d => ?_
  refine Modular.joined (P := Barred env scope status id) (fun _ => ?_) fun h =>
    .bind (.blind fun _ => .lift _) fun _ => .bind (.blind fun _ => .throw _) h
  refine Barred.modular.whenever (.blind fun _ => .throw _) fun _ => ?_
  refine .bind (.blind fun _ => .lift _) fun _ => .bind (.blind fun _ => .dialect) fun _ => ?_
  refine .bind (.blind fun _ => .lift _) fun _ => .bind (barred_expressionRows _) fun rows => ?_
  split
  · exact .blind fun _ => .pure _
  · exact .blind fun _ => .pure _
  · exact .blind fun _ => .bind (.lift _) fun _ => .marked _

theorem refused_insertRow (verb : InsertVerb) (data : Value) :
    Refused env scope status id (insertRow id verb data) :=
  .after (.blind fun _ => blind_prepare _ _) fun _ => .after (.blind fun _ => blind_fire _ _ _ _) fun _ =>
    (refused_statement _ _).bind

theorem refused_update (data : Value) : Refused env scope status id (update id data) :=
  .after (.blind fun _ => blind_prepare _ _) fun _ => refused_around _ _ _

theorem refused_delete (columns : Value) : Refused env scope status id (delete id columns) :=
  .after (.blind fun _ => blind_prepare _ _) fun _ => refused_around _ _ _

end Execute

end SqlBuilder
