import SqlBuilder.Proofs.Session.Transacting

/-!
Whatever is called, scopes that have ended stay so, builders stay in their scopes, and no builder of a scope that has
ended gets a pending result, as long as the scripts of groups and hooks keep that up.
-/

namespace SqlBuilder

open Act Session

variable {α β : Type} {env : Surroundings}

/-! ### Execution -/

namespace Execute

theorem requireOpen_closed {s : Session} {scope id : Nat} {status : TransactionStatus} (hid : s.InScope scope id)
    (hclosed : s.Closed scope status) :
    (requireOpen id).exec env s = (.error (.sql (.scopeClosed status)), s) := by
  obtain ⟨b, hb, hrole⟩ := hid
  have hstatus : (Act.scopeStatus scope).exec env s = (.ok (some status), s) := by
    simp only [Act.scopeStatus, exec_bind, exec_get, exec_pure]
    rw [hclosed]
    rfl
  unfold requireOpen
  rw [exec_bind_ok (exec_builder_of_some hb)]
  simp only [hrole]
  rw [exec_bind_ok hstatus]
  rfl

/-- A check that is passed leaves the state alone and has found the scope open. -/
theorem requireOpen_ok {s t : Session} {id : Nat} {x : Unit} (h : (requireOpen id).exec env s = (.ok x, t)) :
    t = s ∧ ∀ scope status, s.InScope scope id → ¬ s.Closed scope status := by
  constructor
  · unfold requireOpen at h
    obtain ⟨b, u, hb, hrest⟩ := exec_bind_eq_ok h
    obtain ⟨-, rfl⟩ := exec_builder_eq_ok hb
    split at hrest
    · obtain ⟨status, v, hstatus, hrest⟩ := exec_bind_eq_ok hrest
      obtain rfl : u = v := congrArg Prod.snd hstatus
      split at hrest
      · cases hrest
      · exact (congrArg Prod.snd hrest).symm
    · exact (congrArg Prod.snd hrest).symm
  · intro scope status hid hclosed
    rw [requireOpen_closed hid hclosed] at h
    cases h

theorem statement_closed {s : Session} {scope id : Nat} {status : TransactionStatus} (hid : s.InScope scope id)
    (hclosed : s.Closed scope status) (sql values : Value) :
    (statement id sql values).exec env s = (.error (.sql (.scopeClosed status)), s) :=
  exec_bind_error (requireOpen_closed hid hclosed)

theorem reported_same {operation : Driver → Except Fault α × Driver × List WireEntry} {s t : Session}
    {outcome : Except Fault α} (h : (reported operation).exec env s = (outcome, t)) :
    t.scopes = s.scopes ∧ t.builders = s.builders := by
  obtain rfl : ((reported operation).exec env s).2 = t := congrArg Prod.snd h
  rw [reported_snd]
  exact ⟨rfl, rfl⟩

theorem extends_called (s : Session) (c : DriverCall) : Extends s (s.called c) := .of_eq rfl rfl

/-- An execution that has succeeded began while the scope of its builder was open. -/
theorem not_closed_of_around [env.Keeps Extends] {s t : Session} {id : Nat} {before after : EventKind} {i : Issued}
    {result : QueryResult} (h : (around id before after i).exec env s = (.ok result, t)) (scope : Nat)
    (status : TransactionStatus) (hid : s.InScope scope id) : ¬ s.Closed scope status := by
  intro hclosed
  obtain ⟨answers, u, hfire, hrest⟩ := exec_bind_eq_ok h
  have hu : Extends s u := (Keeps.blind (blind_fire id before (some i) .null)).of_exec hfire
  obtain ⟨result', v, hrun, -⟩ := exec_bind_eq_ok hrest
  have herror : (run id i).exec env u = _ := statement_closed (hu.inScope hid) (hu.closed _ _ hclosed) _ _
  rw [herror] at hrun
  cases hrun

end Execute

/-- The result becomes pending only if the scope was open when the execution began, though a hook behind it may have
closed the scope. -/
instance [env.Keeps Extends] : env.Executes Extends where
  statement c s _ := Execute.extends_called s c
  pending _ _ _ _ _ _ _ h ht := ht.modifyBuilder (fun _ => rfl) (Execute.not_closed_of_around h)

theorem Session.not_closed_of_getD {s : Session} {scope : Nat} (hopen : s.scopes[scope]?.getD none = none)
    (status : TransactionStatus) : ¬ s.Closed scope status := by
  intro hclosed
  rw [hclosed] at hopen
  cases hopen

instance [env.Keeps Extends] : env.Transacts Extends where
  called c s := Execute.extends_called s c
  noted _ _ _ := .of_eq rfl rfl
  opened := .pushScope
  ended s scope status hopen _ := by
    refine (Execute.extends_called s status.call).trans ?_
    exact Extends.closeScope (s := s.called status.call) (not_closed_of_getD hopen) status
  assumed s scope hopen _ := .closeScope (not_closed_of_getD hopen) .committed
  resumed s t report inner h := by
    have haside : Extends s s.aside := .of_eq rfl rfl
    exact (haside.trans h).trans (.of_eq rfl rfl)

end SqlBuilder
