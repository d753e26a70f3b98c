import SqlBuilder.Proofs.Session.ClosedScope
import SqlBuilder.Proofs.Transaction.Course

/-!
What is done around the script of a transaction: the beginning, with a scope of its own, and what follows when the
script has returned or failed. All that depends on the script is whether it has left the scope open, and whether the
driver still has a transaction open.
-/

namespace SqlBuilder

open Act Session

variable {α : Type} {env : Surroundings} {s t v : Session} {id builder scope : Nat} {script : Nat → Act α}

theorem Session.unended_of_open (h : v.stage.Open scope) : v.scopes[scope]?.getD none = none := by
  change v.scopes[scope]? = some none at h
  rw [h]
  rfl

theorem Session.closed_closing (h : v.stage.Open scope) (status : TransactionStatus) :
    (v.closing scope status).scopes[scope]? = some (some status) := by
  change v.scopes[scope]? = some none at h
  unfold closing
  rw [Array.getElem?_modify, if_pos rfl, h]
  rfl

namespace Transaction

/-! ### The beginning -/

/-- Where a script is called in a transaction that has been begun for it: on a builder of an open scope, while a
driver that is sound has a transaction open. -/
structure Ready (scope builder : Nat) (t : Session) : Prop where
  inScope : t.InScope scope builder
  isOpen : t.stage.Open scope
  flag : t.driver.inTransaction = true
  sound : t.driver.Sound

theorem begin_ok {x : Unit} (h : (Execute.reported Driver.begin).exec env s = (.ok x, t)) :
    DriverCall.begin.Succeeds s.driver ∧ t = s.called .begin := by
  have hcall : (Execute.reported Driver.begin).exec env s = _ := Execute.exec_reported_call .begin (fun _ => rfl) s
  rw [hcall] at h
  split at h
  · rename_i hcall
    cases h
    exact ⟨hcall, rfl⟩
  · cases h

/-- The copy leaves the driver and the scopes as they are. -/
theorem copied (hcopy : (builderFor id s.scopes.size).exec env s.opened = (.ok builder, t)) :
    t.driver = s.driver ∧ t.journal = s.journal ∧ t.stage.Open s.scopes.size ∧ t.InScope s.scopes.size builder := by
  have hquiet := (quiet_builderFor id _).of_exec hcopy
  refine ⟨hquiet.driver, hquiet.journal, ?_, builderFor_inScope hcopy⟩
  change t.scopes[s.scopes.size]? = some none
  rw [hquiet.scopes]
  exact Array.getElem?_push_size

theorem ready_called (hdriver : DriverCall.begin.Succeeds t.driver) (hopen : t.stage.Open scope)
    (hbuilder : t.InScope scope builder) : Ready scope builder (t.called .begin) where
  inScope := hbuilder
  isOpen := hopen
  flag := DriverCall.after_begin hdriver
  sound := DriverCall.sound_begin hdriver

theorem Starts.ready (h : Starts env id s builder t) (hout : s.driver.inTransaction = false) :
    Ready s.scopes.size builder t := by
  cases h with
  | shared hcopy hin =>
      rw [(copied hcopy).1, hout] at hin
      cases hin
  | begun hcopy _ hbegin =>
      obtain ⟨-, -, hopen, hbuilder⟩ := copied hcopy
      obtain ⟨hdriver, rfl⟩ := begin_ok hbegin
      exact ready_called hdriver hopen hbuilder

/-! ### The end -/

theorem exec_requireOpen_of_open (hbuilder : v.InScope scope builder) (hopen : v.stage.Open scope) :
    (Execute.requireOpen builder).exec env v = (.ok (), v) := by
  obtain ⟨b, hb, hrole⟩ := hbuilder
  have hstatus : (Act.scopeStatus scope).exec env v = (.ok none, v) := by
    simp only [Act.scopeStatus, exec_bind, exec_get, exec_pure, unended_of_open hopen]
  unfold Execute.requireOpen
  rw [exec_bind_ok (exec_builder_of_some hb)]
  simp only [hrole]
  rw [exec_bind_ok hstatus]
  rfl

/-- The end of an open scope on one of its builders. -/
theorem exec_finish_open (hbuilder : v.InScope scope builder) (hopen : v.stage.Open scope)
    (status : TransactionStatus) : (finish builder status).exec env v =
      match (status.call.on v.driver).1 with
      | .ok _ => (.ok (), (v.called status.call).closing scope status)
      | .error fault => (.error ((v.called status.call).raised fault), v.called status.call) := by
  have hcheck : (Execute.requireOpen builder).exec env v = _ := exec_requireOpen_of_open hbuilder hopen
  obtain ⟨b, hb, hrole⟩ := hbuilder
  have hdone := exec_finish status hb hcheck
  rw [hrole] at hdone
  exact hdone

/-! What is given back when the script has returned. -/

section Returned

variable {x : α} (hreturned : (script builder).exec env t = (.ok x, v))

include hreturned

theorem begun_returned : (begun scope builder script).exec env t = (do
    conclude builder scope
    pure ((← Act.scopeStatus scope).getD .committed, x) : Act (TransactionStatus × α)).exec env v := by
  rw [exec_begun, hreturned]

/-- An open scope is committed, if the driver can do so. -/
theorem begun_commits (hbuilder : v.InScope scope builder) (hopen : v.stage.Open scope)
    (hflag : v.driver.inTransaction = true) (hcommit : DriverCall.commit.Succeeds v.driver) :
    (begun scope builder script).exec env t =
      (.ok (.committed, x), (v.called .commit).closing scope .committed) := by
  have hdone : (conclude builder scope).exec env v = (.ok (), (v.called .commit).closing scope .committed) := by
    rw [exec_conclude, unended_of_open hopen, Option.isNone_none, if_pos rfl, if_pos hflag,
      exec_finish_open hbuilder hopen]
    rw [show (TransactionStatus.committed.call.on v.driver).1 = .ok () from hcommit]
    rfl
  have hstatus := closed_closing (v := v.called .commit) hopen .committed
  rw [begun_returned hreturned, exec_bind_ok hdone]
  simp only [Act.scopeStatus, exec_bind, exec_get, exec_pure, hstatus, Option.getD_some]

/-- A commit that fails is raised, and nothing else is done about it. -/
theorem begun_fails (hbuilder : v.InScope scope builder) (hopen : v.stage.Open scope)
    (hflag : v.driver.inTransaction = true) {fault : Fault}
    (hcommit : (DriverCall.commit.on v.driver).1 = .error fault) :
    (begun scope builder script).exec env t = (.error ((v.called .commit).raised fault), v.called .commit) := by
  have hdone : (conclude builder scope).exec env v =
      (.error ((v.called .commit).raised fault), v.called .commit) := by
    rw [exec_conclude, unended_of_open hopen, Option.isNone_none, if_pos rfl, if_pos hflag,
      exec_finish_open hbuilder hopen]
    rw [show (TransactionStatus.committed.call.on v.driver).1 = .error fault from hcommit]
    rfl
  rw [begun_returned hreturned, exec_bind_error hdone]

/-- An open scope counts as committed if the driver has no transaction open any more. -/
theorem begun_assumes (hopen : v.stage.Open scope) (hflag : v.driver.inTransaction = false) :
    (begun scope builder script).exec env t = (.ok (.committed, x), v.closing scope .committed) := by
  have hdone : (conclude builder scope).exec env v = (.ok (), v.closing scope .committed) := by
    rw [exec_conclude, unended_of_open hopen, Option.isNone_none, if_pos rfl, if_neg (Bool.eq_false_iff.mp hflag)]
  have hstatus := closed_closing hopen .committed
  rw [begun_returned hreturned, exec_bind_ok hdone]
  simp only [Act.scopeStatus, exec_bind, exec_get, exec_pure, hstatus, Option.getD_some]

/-- A scope that has ended is left alone. -/
theorem begun_ended {status : TransactionStatus} (hclosed : v.stage.Closed scope status) :
    (begun scope builder script).exec env t = (.ok (status, x), v) := by
  change v.scopes[scope]? = some (some status) at hclosed
  have hdone : (conclude builder scope).exec env v = (.ok (), v) := by
    rw [exec_conclude, hclosed]
    rfl
  rw [begun_returned hreturned, exec_bind_ok hdone]
  simp only [Act.scopeStatus, exec_bind, exec_get, exec_pure, hclosed, Option.getD_some]

end Returned

/-! What is raised when the script has failed. -/

theorem exec_rollBackQuietly_ok (h : DriverCall.rollback.Succeeds v.driver) :
    rollBackQuietly.exec env v = (.ok (), v.called .rollback) := by
  have hcall : (v.driver.rollback).1 = .ok () := h
  unfold rollBackQuietly
  rw [exec_tryCatch, exec_driver, hcall]
  rfl

/-- What is noted about a rollback that fails. Only a report can be noted. -/
def warning : Fault → Except Fault String
  | .driver report => report.message.written
  | fault => .error fault

theorem exec_rollBackQuietly_error {failure : Fault} (h : (DriverCall.rollback.on v.driver).1 = .error failure) :
    rollBackQuietly.exec env v =
      match warning failure with
      | .ok text => (.ok (), (v.called .rollback).noted (.wire (.warn ("Rollback failed: " ++ text))))
      | .error other => (.error other, v.called .rollback) := by
  have hcall : (v.driver.rollback).1 = .error failure := h
  unfold rollBackQuietly
  rw [exec_tryCatch, exec_driver, hcall]
  cases failure with
  | driver report =>
      dsimp only [warning]
      cases report.message.written with
      | ok text => rfl
      | error other => rfl
  | _ => rfl

section Raised

variable {fault : Fault} (hraised : (script builder).exec env t = (.error fault, v))

include hraised

theorem begun_raised : (begun scope builder script).exec env t = (do
    abandon scope
    throw fault : Act (TransactionStatus × α)).exec env v := by
  rw [exec_begun, hraised]

/-- Without an open scope, or without a transaction of the driver, there is nothing to roll back. -/
theorem begun_raises (hidle : v.driver.inTransaction = false ∨ ∃ status, v.stage.Closed scope status) :
    (begun scope builder script).exec env t = (.error fault, v) := by
  have hdone : (abandon scope).exec env v = (.ok (), v) := by
    rw [exec_abandon]
    obtain hflag | ⟨status, hclosed⟩ := hidle
    · rw [hflag]
      rfl
    · change v.scopes[scope]? = some (some status) at hclosed
      rw [hclosed, Option.getD_some, Option.isNone_some, Bool.and_false]
      rfl
  rw [begun_raised hraised, exec_bind_ok hdone]
  rfl

/-- An open scope is rolled back, and the failure is raised again. -/
theorem begun_rolls_back (hopen : v.stage.Open scope) (hflag : v.driver.inTransaction = true)
    (hrollback : DriverCall.rollback.Succeeds v.driver) :
    (begun scope builder script).exec env t = (.error fault, v.called .rollback) := by
  have hdone : (abandon scope).exec env v = (.ok (), v.called .rollback) := by
    rw [exec_abandon, unended_of_open hopen, hflag]
    exact exec_rollBackQuietly_ok hrollback
  rw [begun_raised hraised, exec_bind_ok hdone]
  rfl

/-- A report of the driver about the rollback is only noted. -/
theorem begun_warns (hopen : v.stage.Open scope) (hflag : v.driver.inTransaction = true) {failure : Fault}
    {text : String} (hrollback : (DriverCall.rollback.on v.driver).1 = .error failure)
    (htext : warning failure = .ok text) : (begun scope builder script).exec env t =
      (.error fault, (v.called .rollback).noted (.wire (.warn ("Rollback failed: " ++ text)))) := by
  have hdone : (abandon scope).exec env v =
      (.ok (), (v.called .rollback).noted (.wire (.warn ("Rollback failed: " ++ text)))) := by
    rw [exec_abandon, unended_of_open hopen, hflag]
    exact (exec_rollBackQuietly_error hrollback).trans (by rw [htext])
  rw [begun_raised hraised, exec_bind_ok hdone]
  rfl

/-- Anything else that the rollback fails with is raised in place of the failure. -/
theorem begun_replaces (hopen : v.stage.Open scope) (hflag : v.driver.inTransaction = true) {failure other : Fault}
    (hrollback : (DriverCall.rollback.on v.driver).1 = .error failure) (hother : warning failure = .error other) :
    (begun scope builder script).exec env t = (.error other, v.called .rollback) := by
  have hdone : (abandon scope).exec env v = (.error other, v.called .rollback) := by
    rw [exec_abandon, unended_of_open hopen, hflag]
    exact (exec_rollBackQuietly_error hrollback).trans (by rw [hother])
  rw [begun_raised hraised, exec_bind_error hdone]

end Raised

/-! What may follow a script, in one place. -/

/-- What a transaction comes to behind its script: the moves that are made for it, what is raised or given back, and
the session that it leaves. -/
inductive Ending (scope : Nat) (v : Session) :
    Except Fault α → Except Fault (TransactionStatus × α) → List Move → Session → Prop where
  /-- The script has failed and left the scope open, and the driver rolls back. -/
  | rolledBack {fault : Fault} (hopen : v.stage.Open scope) (hflag : v.driver.inTransaction = true)
      (hrollback : DriverCall.rollback.Succeeds v.driver) :
      Ending scope v (.error fault) (.error fault) [.call .rollback] (v.called .rollback)
  /-- The driver reports that it cannot roll back, which is noted. -/
  | warned {fault failure : Fault} {text : String} (hopen : v.stage.Open scope) (hflag : v.driver.inTransaction = true)
      (hrollback : (DriverCall.rollback.on v.driver).1 = .error failure) (htext : warning failure = .ok text) :
      Ending scope v (.error fault) (.error fault) [.call .rollback]
        ((v.called .rollback).noted (.wire (.warn ("Rollback failed: " ++ text))))
  /-- The rollback fails with something else than a report, which takes the place of the failure. -/
  | replaced {fault failure other : Fault} (hopen : v.stage.Open scope) (hflag : v.driver.inTransaction = true)
      (hrollback : (DriverCall.rollback.on v.driver).1 = .error failure) (hother : warning failure = .error other) :
      Ending scope v (.error fault) (.error other) [.call .rollback] (v.called .rollback)
  /-- The script has failed and left the scope open, but the driver has no transaction open any more. -/
  | left {fault : Fault} (hopen : v.stage.Open scope) (hflag : v.driver.inTransaction = false) :
      Ending scope v (.error fault) (.error fault) [] v
  /-- The script has failed behind the end of the scope. -/
  | raised {fault : Fault} {status : TransactionStatus} (hclosed : v.stage.Closed scope status) :
      Ending scope v (.error fault) (.error fault) [] v
  /-- The script has returned and left the scope open, and the driver commits. -/
  | committed {x : α} (hopen : v.stage.Open scope) (hflag : v.driver.inTransaction = true)
      (hcommit : DriverCall.commit.Succeeds v.driver) :
      Ending scope v (.ok x) (.ok (.committed, x)) [.ended scope .committed]
        ((v.called .commit).closing scope .committed)
  /-- The driver cannot commit, which is raised. -/
  | refused {x : α} {fault : Fault} (hopen : v.stage.Open scope) (hflag : v.driver.inTransaction = true)
      (hcommit : (DriverCall.commit.on v.driver).1 = .error fault) :
      Ending scope v (.ok x) (.error ((v.called .commit).raised fault)) [.refused scope .committed] (v.called .commit)
  /-- The script has returned and left the scope open, but the driver has no transaction open any more. -/
  | assumed {x : α} (hopen : v.stage.Open scope) (hflag : v.driver.inTransaction = false) :
      Ending scope v (.ok x) (.ok (.committed, x)) [.assumed scope] (v.closing scope .committed)
  /-- The script has returned behind the end of the scope. -/
  | returned {x : α} {status : TransactionStatus} (hclosed : v.stage.Closed scope status) :
      Ending scope v (.ok x) (.ok (status, x)) [] v

variable {outcome : Except Fault α} {result : Except Fault (TransactionStatus × α)} {tail : List Move} {u : Session}

/-- Behind every script follows one of these ends. -/
theorem ending_of_begun (hr : (script builder).exec env t = (outcome, v)) (hbuilder : v.InScope scope builder)
    (hscope : v.stage.Open scope ∨ ∃ status, v.stage.Closed scope status) :
    ∃ tail, Ending scope v outcome ((begun scope builder script).exec env t).1 tail
      ((begun scope builder script).exec env t).2 := by
  obtain hopen | ⟨status, hclosed⟩ := hscope
  · cases outcome with
    | error fault =>
        cases hflag : v.driver.inTransaction with
        | false =>
            rw [begun_raises hr (.inl hflag)]
            exact ⟨_, .left hopen hflag⟩
        | true =>
            cases hrollback : (DriverCall.rollback.on v.driver).1 with
            | ok x =>
                rw [begun_rolls_back hr hopen hflag hrollback]
                exact ⟨_, .rolledBack hopen hflag hrollback⟩
            | error failure =>
                cases hwarning : warning failure with
                | ok text =>
                    rw [begun_warns hr hopen hflag hrollback hwarning]
                    exact ⟨_, .warned hopen hflag hrollback hwarning⟩
                | error other =>
                    rw [begun_replaces hr hopen hflag hrollback hwarning]
                    exact ⟨_, .replaced hopen hflag hrollback hwarning⟩
    | ok x =>
        cases hflag : v.driver.inTransaction with
        | false =>
            rw [begun_assumes hr hopen hflag]
            exact ⟨_, .assumed hopen hflag⟩
        | true =>
            cases hcommit : (DriverCall.commit.on v.driver).1 with
            | ok y =>
                rw [begun_commits hr hbuilder hopen hflag hcommit]
                exact ⟨_, .committed hopen hflag hcommit⟩
            | error fault =>
                rw [begun_fails hr hbuilder hopen hflag hcommit]
                exact ⟨_, .refused hopen hflag hcommit⟩
  · cases outcome with
    | error fault =>
        rw [begun_raises hr (.inr ⟨status, hclosed⟩)]
        exact ⟨_, .raised hclosed⟩
    | ok x =>
        rw [begun_ended hr hclosed]
        exact ⟨_, .returned hclosed⟩

namespace Ending

theorem course (h : Ending scope v outcome result tail u) : Course v tail u := by
  cases h with
  | rolledBack => exact .called v .rollback
  | warned => exact (Course.called v .rollback).append (.noted _ trivial)
  | replaced => exact .called v .rollback
  | left => exact .refl _
  | raised => exact .refl _
  | committed hopen _ hcommit => exact .ended .committed (unended_of_open hopen) hcommit
  | refused hopen _ hcommit =>
      refine .refused .committed (unended_of_open hopen) fun hsucceeds => ?_
      rw [DriverCall.Succeeds, show (TransactionStatus.committed.call.on v.driver).1 = _ from hcommit] at hsucceeds
      cases hsucceeds
  | assumed hopen hflag => exact .assumed (unended_of_open hopen) hflag
  | returned => exact .refl _

/-- Something is given back only if the script has returned, and then the scope is closed with that status. -/
theorem closed {status : TransactionStatus} {x : α} (h : Ending scope v outcome (.ok (status, x)) tail u) :
    outcome = .ok x ∧ u.stage.Closed scope status := by
  cases h with
  | committed hopen => exact ⟨rfl, closed_closing (v := v.called .commit) hopen .committed⟩
  | assumed hopen => exact ⟨rfl, closed_closing hopen .committed⟩
  | returned hclosed => exact ⟨rfl, hclosed⟩

/-- An end that succeeds leaves no transaction open. -/
theorem flag (h : Ending scope v outcome result tail u) (hopen : v.stage.Open scope) (hv : v.driver.Sound)
    (hrollback : DriverCall.rollback.Succeeds v.driver)
    (hcommit : ∀ x, outcome = .ok x → v.driver.inTransaction = true → DriverCall.commit.Succeeds v.driver) :
    u.driver.inTransaction = false := by
  have hfails : ∀ {c : DriverCall} {fault : Fault}, (c.on v.driver).1 = .error fault → ¬ c.Succeeds v.driver := by
    intro c fault hfault hsucceeds
    rw [DriverCall.Succeeds, hfault] at hsucceeds
    cases hsucceeds
  cases h with
  | rolledBack => exact DriverCall.after_end hv .rolledBack hrollback
  | warned _ _ hfault => exact absurd hrollback (hfails hfault)
  | replaced _ _ hfault => exact absurd hrollback (hfails hfault)
  | left _ hflag => exact hflag
  | raised hclosed => exact absurd hopen hclosed.not_open
  | committed _ _ hsucceeds => exact DriverCall.after_end hv .committed hsucceeds
  | refused _ hflag hfault => exact absurd (hcommit _ rfl hflag) (hfails hfault)
  | assumed _ hflag => exact hflag
  | returned hclosed => exact absurd hopen hclosed.not_open

/-- Behind the end of the scope nothing is done. -/
theorem eq_of_not_open (h : Ending scope v outcome result tail u) (hclosed : ¬ v.stage.Open scope) :
    tail = [] ∧ u = v := by
  cases h with
  | raised => exact ⟨rfl, rfl⟩
  | returned => exact ⟨rfl, rfl⟩
  | rolledBack hopen => exact absurd hopen hclosed
  | warned hopen => exact absurd hopen hclosed
  | replaced hopen => exact absurd hopen hclosed
  | left hopen => exact absurd hopen hclosed
  | committed hopen => exact absurd hopen hclosed
  | refused hopen => exact absurd hopen hclosed
  | assumed hopen => exact absurd hopen hclosed

end Ending

end Transaction

end SqlBuilder
