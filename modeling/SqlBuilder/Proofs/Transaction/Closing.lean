import SqlBuilder.Proofs.Transaction.Outcome

/-!
When the scope of a transaction is closed: where the transaction gives something back, and where the script has ended
it itself. Otherwise the scope is left open. The rollback behind a script that has failed goes past the scope, and
nothing closes it if the commit behind the script fails, or the beginning. The builders of a scope that has been left
open execute as other builders do, outside of any transaction. A scope that is closed keeps its status.
-/

namespace SqlBuilder

open Act Session

variable {α : Type}

theorem Course.keeps_closed {s t : Session} {ms : List Move} (h : Course s ms t) {scope : Nat}
    {status : TransactionStatus} (hclosed : s.stage.Closed scope status) : t.stage.Closed scope status := by
  rw [h.run.1]
  exact hclosed.run h.run.2

namespace Transaction

variable {env : Surroundings} {s t u v : Session} {id builder scope : Nat} {script : Nat → Act α}
  {outcome : Except Fault α} {result : Except Fault (TransactionStatus × α)} {tail : List Move}

/-- The script of a transaction is called on a builder of an open scope. -/
theorem Starts.opens (h : Starts env id s builder t) :
    t.stage.Open s.scopes.size ∧ t.InScope s.scopes.size builder := by
  cases h with
  | shared hcopy _ =>
      obtain ⟨-, -, hopen, hbuilder⟩ := copied hcopy
      exact ⟨hopen, hbuilder⟩
  | begun hcopy _ hbegin =>
      obtain ⟨-, -, hopen, hbuilder⟩ := copied hcopy
      obtain ⟨-, rfl⟩ := begin_ok hbegin
      exact ⟨hopen, hbuilder⟩

theorem starts_or_not (env : Surroundings) (id : Nat) (s : Session) :
    (∃ builder t, Starts env id s builder t) ∨ ∀ builder t, ¬ Starts env id s builder t := by
  by_cases h : ∃ builder t, Starts env id s builder t
  · exact .inl h
  · exact .inr fun builder t hstarts => h ⟨builder, t, hstarts⟩

/-- Without a call of the script the transaction fails, and its scope stays as it has come up. -/
theorem exec_run_of_not_starts (script : Nat → Act α) (h : ∀ builder t, ¬ Starts env id s builder t) :
    ∃ fault u, (run id script).exec env s = (.error fault, u) ∧ u.stage.Open s.scopes.size := by
  have hnew : Act.newScope.exec env s = (.ok s.scopes.size, s.opened) := rfl
  have hkeeps : Keeps Quiet env (builderFor id s.scopes.size) := quiet_builderFor id s.scopes.size
  have hquiet := hkeeps s.opened
  rw [run_eq, exec_bind_ok hnew]
  rcases hcopy : (builderFor id s.scopes.size).exec env s.opened with ⟨made, t⟩
  cases made with
  | error fault =>
      rw [hcopy] at hquiet
      refine ⟨fault, t, exec_bind_error hcopy, ?_⟩
      change t.scopes[s.scopes.size]? = some none
      rw [hquiet.scopes]
      exact Array.getElem?_push_size
  | ok builder =>
      obtain ⟨-, -, hopen, -⟩ := copied hcopy
      have hout : t.driver.inTransaction = false := Bool.eq_false_iff.2 fun hin => h builder t (.shared hcopy hin)
      have hcall : (Execute.reported Driver.begin).exec env t = _ :=
        Execute.exec_reported_call .begin (fun _ => rfl) t
      rw [exec_bind_ok hcopy, exec_bind, exec_get]
      dsimp only
      rw [if_neg (Bool.eq_false_iff.1 hout)]
      cases hbegin : (DriverCall.begin.on t.driver).1 with
      | ok x =>
          rw [hbegin] at hcall
          exact absurd (.begun hcopy hout hcall) (h builder (t.called .begin))
      | error fault =>
          rw [hbegin] at hcall
          exact ⟨_, _, exec_bind_error hcall, hopen⟩

/-- How it comes that the scope of a transaction is left open. -/
inductive LeavesOpen (env : Surroundings) (id : Nat) (script : Nat → Act α) (s : Session) : Prop where
  /-- The script is not called: what the builder declares cannot be copied, or the driver does not begin. -/
  | unbegun (h : ∀ builder t, ¬ Starts env id s builder t)
  /-- The script fails without having ended the transaction itself. -/
  | raised {builder : Nat} {t v : Session} {fault : Fault} (hstarts : Starts env id s builder t)
      (hraised : (script builder).exec env t = (.error fault, v)) (hopen : v.stage.Open s.scopes.size)
  /-- The commit behind the script fails. -/
  | refused {builder : Nat} {t : Session} {fault : Fault} (hstarts : Starts env id s builder t)
      (h : LastCommitFails env s.scopes.size builder script t fault)

namespace Ending

/-- Nothing that follows a failure closes the scope. -/
theorem isOpen_of_error {fault : Fault} (h : Ending scope v (.error fault) result tail u)
    (hopen : v.stage.Open scope) : u.stage.Open scope := by
  cases h with
  | rolledBack => exact hopen
  | warned => exact hopen
  | replaced => exact hopen
  | left => exact hopen
  | raised => exact hopen

/-- What follows a script closes the scope, or it follows a failure or meets one. -/
theorem closed_or_fails (h : Ending scope v outcome result tail u) : (∃ status, u.stage.Closed scope status) ∨
    v.stage.Open scope ∧ ((∃ fault, outcome = .error fault) ∨ (∃ x, outcome = .ok x) ∧
      v.driver.inTransaction = true ∧ ∃ fault, (DriverCall.commit.on v.driver).1 = .error fault) := by
  cases h with
  | rolledBack hopen => exact .inr ⟨hopen, .inl ⟨_, rfl⟩⟩
  | warned hopen => exact .inr ⟨hopen, .inl ⟨_, rfl⟩⟩
  | replaced hopen => exact .inr ⟨hopen, .inl ⟨_, rfl⟩⟩
  | left hopen => exact .inr ⟨hopen, .inl ⟨_, rfl⟩⟩
  | raised hclosed => exact .inl ⟨_, hclosed⟩
  | committed hopen => exact .inl ⟨_, closed_closing (v := v.called .commit) hopen .committed⟩
  | refused hopen hflag hcommit => exact .inr ⟨hopen, .inr ⟨⟨_, rfl⟩, hflag, _, hcommit⟩⟩
  | assumed hopen => exact .inl ⟨_, closed_closing hopen .committed⟩
  | returned hclosed => exact .inl ⟨_, hclosed⟩

end Ending

section Whole

variable [env.Keeps (Courses fun _ => True)]

/-- The script takes a course, and what follows it is one of the ends. -/
theorem ending_of_starts (hstarts : Starts env id s builder t)
    (hscript : Callback env (.any env) (script builder) t) (hv : (script builder).exec env t = (outcome, v)) :
    ∃ ms tail, Course t ms v ∧ Ending s.scopes.size v outcome ((run id script).exec env s).1 tail
      ((run id script).exec env s).2 := by
  obtain ⟨hopen, hbuilder⟩ := hstarts.opens
  obtain ⟨ms, hcourse⟩ := course_of_callback hscript
  rw [hv] at hcourse
  obtain ⟨tail, hend⟩ := ending_of_begun hv (hcourse.roles _ _ hbuilder) (hcourse.open_or_closed hopen)
  rw [exec_run_of_starts hstarts]
  exact ⟨ms, tail, hcourse, hend⟩

variable (hscript : ∀ builder t, Starts env id s builder t → Callback env (.any env) (script builder) t)

include hscript

theorem LeavesOpen.isOpen (h : LeavesOpen env id script s) :
    ((run id script).exec env s).2.stage.Open s.scopes.size := by
  cases h with
  | unbegun h =>
      obtain ⟨fault, u, hrun, hopen⟩ := exec_run_of_not_starts script h
      rw [hrun]
      exact hopen
  | raised hstarts hraised hopen =>
      obtain ⟨_, _, -, hend⟩ := ending_of_starts hstarts (hscript _ _ hstarts) hraised
      exact hend.isOpen_of_error hopen
  | @refused builder t fault hstarts h =>
      obtain ⟨⟨x, hx⟩, hopen, hflag, hcommit⟩ := h
      obtain ⟨_, hcourse⟩ := course_of_callback (hscript _ _ hstarts)
      have hbuilder := hcourse.roles _ _ hstarts.opens.2
      rw [exec_run_of_starts hstarts, begun_fails (Prod.ext hx rfl) hbuilder hopen hflag hcommit]
      exact hopen

theorem closed_of_not_leavesOpen (h : ¬ LeavesOpen env id script s) :
    ∃ status, ((run id script).exec env s).2.stage.Closed s.scopes.size status := by
  obtain ⟨builder, t, hstarts⟩ | hnever := starts_or_not env id s
  · rcases hv : (script builder).exec env t with ⟨outcome, v⟩
    obtain ⟨_, _, -, hend⟩ := ending_of_starts hstarts (hscript _ _ hstarts) hv
    obtain hclosed | ⟨hopen, ⟨fault, rfl⟩ | ⟨⟨x, rfl⟩, hflag, fault, hcommit⟩⟩ := hend.closed_or_fails
    · exact hclosed
    · exact absurd (.raised hstarts hv hopen) h
    · have hfails : LastCommitFails env s.scopes.size builder script t fault :=
        ⟨⟨x, by rw [hv]⟩, by rwa [hv], by rwa [hv], by rwa [hv]⟩
      exact absurd (.refused hstarts hfails) h
  · exact absurd (.unbegun hnever) h

theorem closed_of_returned {status : TransactionStatus} {x : α}
    (hrun : ((run id script).exec env s).1 = .ok (status, x)) :
    ((run id script).exec env s).2.stage.Closed s.scopes.size status := by
  obtain ⟨builder, t, hstarts⟩ | hnever := starts_or_not env id s
  · obtain ⟨_, _, -, hend⟩ := ending_of_starts hstarts (hscript _ _ hstarts) rfl
    rw [hrun] at hend
    exact hend.closed.2
  · obtain ⟨fault, u, hfails, -⟩ := exec_run_of_not_starts script hnever
    rw [hfails] at hrun
    cases hrun

end Whole

/-- The scope of a transaction is open when the transaction is left if the script has not been called, if it has failed
without having ended the transaction, or if the commit behind it has failed. In every other case it is closed, and with
the status that is given back if one is. Whatever scope is closed when the script is called, when it comes to its end or
when the transaction is left keeps its status from there on. Whatever runs behind the transaction, a builder of a scope
that is still open executes, and none of the calls on a builder of a closed one does, but for those that begin a
transaction of their own. -/
theorem run_closes (depth : Nat) (hu : u = ((run id script).exec (Play.surroundings depth) s).2)
    (hscript : ∀ builder t, Starts (Play.surroundings depth) id s builder t →
      Callback (Play.surroundings depth) (.any (Play.surroundings depth)) (script builder) t) :
    (LeavesOpen (Play.surroundings depth) id script s → u.stage.Open s.scopes.size) ∧
    (¬ LeavesOpen (Play.surroundings depth) id script s → ∃ status, u.stage.Closed s.scopes.size status) ∧
    (∀ status x, ((run id script).exec (Play.surroundings depth) s).1 = .ok (status, x) →
      u.stage.Closed s.scopes.size status) ∧
    (∀ builder t v, Starts (Play.surroundings depth) id s builder t →
      v = ((script builder).exec (Play.surroundings depth) t).2 → ∀ scope status,
        (t.stage.Closed scope status → v.stage.Closed scope status) ∧
        (v.stage.Closed scope status → u.stage.Closed scope status)) ∧
    ∀ (isOutermost : Bool) (further : List Step) (w : Session),
      w = ((Play.record isOutermost further).exec (Play.surroundings depth) u).2 →
      (∀ scope status, u.stage.Closed scope status → w.stage.Closed scope status) ∧
      (∀ scope id, u.InScope scope id → w.InScope scope id) ∧
      ∀ scope id, w.InScope scope id →
        (w.stage.Open scope → (Execute.requireOpen id).exec (Play.surroundings depth) w = (.ok (), w)) ∧
        ∀ status, w.stage.Closed scope status → ∀ c, CallOnShut (Play.surroundings depth) scope status id c w := by
  subst hu
  refine ⟨LeavesOpen.isOpen hscript, closed_of_not_leavesOpen hscript,
    fun _ _ hrun => closed_of_returned hscript hrun, ?_, ?_⟩
  · rintro builder t v hstarts rfl scope status
    obtain ⟨_, _, hcourse, hend⟩ := ending_of_starts hstarts (hscript _ _ hstarts) rfl
    exact ⟨hcourse.keeps_closed, hend.course.keeps_closed⟩
  · rintro isOutermost further w rfl
    have hkeeps : Keeps Extends (Play.surroundings depth) _ := Play.extends_record isOutermost further
    have hw := hkeeps ((run id script).exec (Play.surroundings depth) s).2
    refine ⟨hw.closed, fun _ _ hid => hw.inScope hid, fun scope id hid => ?_⟩
    exact ⟨exec_requireOpen_of_open hid, fun status hclosed c => callOnShut ⟨hclosed, hid⟩ c⟩

/-- A statement that is kept for later. -/
def clearing : BuilderCall := .statement (.text "DELETE FROM people") (.list [])

def leftBehind (script : Nat → Act Value) : Session :=
  ((run 0 script).exec (Play.surroundings 2) (starting none)).2

theorem run_closes_returning : (leftBehind fun _ => pure .null).stage.Closed 0 .committed ∧
    (leftBehind fun _ => pure .null).InScope 0 1 ∧
    CallOnShut (Play.surroundings 2) 0 .committed 1 clearing (leftBehind fun _ => pure .null) ∧
    ((clearing.perform 1).exec (Play.surroundings 2) (leftBehind fun _ => pure .null)).1 =
      .error (.sql (.scopeClosed .committed)) := by
  have hleft : (leftBehind fun _ => pure .null) =
      ((run 0 fun _ => pure Value.null).exec (Play.surroundings 2) (starting none)).2 := rfl
  obtain ⟨-, -, hreturned, -, hfurther⟩ := run_closes 2 hleft
    (fun _ t _ => (Composed.pure Value.null t :
      Callback (Play.surroundings 2) (.any (Play.surroundings 2)) (pure Value.null) t))
  have hclosed : (leftBehind fun _ => pure .null).stage.Closed 0 .committed := hreturned .committed .null rfl
  have hid : (leftBehind fun _ => pure .null).InScope 0 1 := ⟨_, rfl, rfl⟩
  obtain ⟨-, -, hcalls⟩ := hfurther true [] (leftBehind fun _ => pure .null) rfl
  exact ⟨hclosed, hid, (hcalls 0 1 hid).2 .committed hclosed clearing, rfl⟩

/-- Behind a script that has failed its builder still executes, and no transaction is open any more. -/
theorem not_run_closes_failing : (leftBehind failing).stage.Open 0 ∧ (leftBehind failing).InScope 0 1 ∧
    (leftBehind failing).driver.inTransaction = false ∧
    ((clearing.perform 1).exec (Play.surroundings 2) (leftBehind failing)).1.isOk = true ∧
    ((clearing.perform 1).exec (Play.surroundings 2) (leftBehind failing)).2.journal =
      [.wire .begin, .wire .rollback, .wire (.execute (.text "DELETE FROM people") [])] :=
  ⟨rfl, ⟨_, rfl, rfl⟩, rfl, rfl, rfl⟩

end Transaction

end SqlBuilder
