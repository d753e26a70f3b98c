import SqlBuilder.Proofs.Transaction.Control
import SqlBuilder.Session.Start

/-!
What a transaction comes to that has been begun for its script, whatever the script does: inside it there may be
further transactions, failures that are caught, ends by hand and calls of the driver itself. The driver has one
transaction, which any of them may end; the scope, whose status is given back, knows only of its own end.
-/

namespace SqlBuilder

open Act Session

variable {α : Type}

namespace Course

variable {s t : Session} {ms : List Move} {scope : Nat}

/-- A scope that is open at first is still open at last, or it has been closed. -/
theorem open_or_closed (h : Course s ms t) (hopen : s.stage.Open scope) :
    t.stage.Open scope ∨ ∃ status, t.stage.Closed scope status := by
  rw [h.run.1]
  obtain hstill | ⟨_, _, _, status, _, _, _, hclosed⟩ := hopen.run h.run.2
  · exact .inl hstill
  · exact .inr ⟨status, hclosed⟩

/-- If the driver has no transaction open at last, or the scope has been closed, then the transaction that was open
at first has ended. -/
theorem ending (h : Course s ms t) {builder : Nat} (hs : Transaction.Ready scope builder s)
    (hend : t.driver.inTransaction = false ∨ ¬ t.stage.Open scope) : ∃ m, s.stage.ending? ms = some m := by
  obtain ⟨hstage, hms⟩ := h.run
  obtain hflag | hclosed := hend
  · refine Stage.ending?_isSome hs.flag ?_
    rw [← hstage]
    exact hflag
  · refine Stage.ending?_of_closed hs.sound hs.flag hs.isOpen hms ?_
    rw [← hstage]
    exact hclosed

theorem sound (h : Course s ms t) (hs : s.driver.Sound) : t.driver.Sound := by
  have ht : t.stage.driver.Sound := by
    rw [h.run.1]
    exact Stage.sound_run hs
  exact ht

/-- The move with which a scope ends settles how it has ended. -/
theorem closed_of_ending (h : Course s ms t) {ending : TransactionStatus} (hopen : s.stage.Open scope)
    (hm : s.stage.ending? ms = some (.ended scope ending)) : t.stage.Closed scope ending := by
  obtain ⟨hstage, hms⟩ := h.run
  obtain ⟨before, behind, rfl, -, -⟩ := Stage.ending?_eq_some hm
  rw [hstage]
  exact Stage.closed_of_mem hopen hms (by simp)

end Course

namespace Transaction

variable {env : Surroundings} {s t u v : Session} {id builder scope : Nat} {script : Nat → Act α}

/-- Whatever the script does is a course. -/
theorem course_of_callback [env.Keeps (Courses fun _ => True)] (h : Callback env (.any env) (script builder) t) :
    ∃ ms, Course t ms ((script builder).exec env t).2 := by
  have hcourses : Courses (fun _ => True) t ((script builder).exec env t).2 := h.keeps_any
  obtain ⟨ms, -, hcourse⟩ := hcourses
  exact ⟨ms, hcourse⟩

/-- A transaction that gives something back has a script that has returned. -/
theorem returned_of_run [env.Keeps (Courses fun _ => True)] (ht : Ready scope builder t)
    (hscript : Callback env (.any env) (script builder) t) {status : TransactionStatus} {x : α}
    (hrun : (begun scope builder script).exec env t = (.ok (status, x), u)) :
    ∃ ms v tail, (script builder).exec env t = (.ok x, v) ∧ Course t ms v ∧
      Ending scope v (.ok x) (.ok (status, x)) tail u := by
  obtain ⟨ms, hcourse⟩ := course_of_callback hscript
  rcases hr : (script builder).exec env t with ⟨outcome, v⟩
  rw [hr] at hcourse
  obtain ⟨tail, hend⟩ := ending_of_begun hr (hcourse.roles _ _ ht.inScope) (hcourse.open_or_closed ht.isOpen)
  rw [hrun] at hend
  obtain ⟨rfl, -⟩ := hend.closed
  exact ⟨ms, v, tail, rfl, hcourse, hend⟩

/-! ### The status that is given back -/

/-- The status is true of the move that has ended the transaction of the driver. -/
def TrueOf (σ : Stage) (status : TransactionStatus) (m : Move) : Prop :=
  (status = .committed ↔ m.Commits σ) ∧ (status = .rolledBack ↔ m.call? = some .rollback)

theorem trueOf_ended {σ : Stage} {status : TransactionStatus} (h : (Move.ended scope status).Fits σ) :
    TrueOf σ status (.ended scope status) := by
  have hsucceeds := h.2
  cases status with
  | committed => simpa [TrueOf, Move.Commits, Move.call?, TransactionStatus.call] using hsucceeds
  | rolledBack => simp [TrueOf, Move.Commits, Move.call?, TransactionStatus.call]

theorem trueOf_committed {σ : Stage} {m : Move} : TrueOf σ .committed m ↔ m.Commits σ := by
  constructor
  · exact fun h => h.1.mp rfl
  · intro h
    have hnot : m.call? ≠ some .rollback := by
      rw [h.1]
      exact nofun
    exact ⟨⟨fun _ => h, fun _ => rfl⟩, ⟨nofun, fun hcall => absurd hcall hnot⟩⟩

/-- A transaction that has been begun for its script, and gives something back, takes a course on which it ends, and its
scope has closed with the status that is given back. Whatever the course is, if the transaction has ended with its own
scope, by a commit or a rollback that has succeeded, then the status is true. If the script has left the scope open
although the driver has no transaction open any more, then nothing is called and the status is that of a commit, which
is true only if a commit has ended the transaction, be it the one of a transaction inside. -/
theorem run_status (depth : Nat) (hout : s.driver.inTransaction = false)
    (hstarts : Starts (Play.surroundings depth) id s builder t)
    (hscript : Callback (Play.surroundings depth) (.any (Play.surroundings depth)) (script builder) t)
    {status : TransactionStatus} {x : α}
    (hrun : (run id script).exec (Play.surroundings depth) s = (.ok (status, x), u)) :
    ∃ v, (script builder).exec (Play.surroundings depth) t = (.ok x, v) ∧
      u.stage.Closed s.scopes.size status ∧
      (∃ ms m, Course t ms u ∧ t.stage.ending? ms = some m) ∧
      ∀ before m behind, Course t (before ++ m :: behind) u → t.stage.ending? before = none →
        (t.stage.run (before ++ [m])).driver.inTransaction = false →
        (∀ ending, m = .ended s.scopes.size ending → TrueOf (t.stage.run before) status m) ∧
        (v.stage.Open s.scopes.size → v.driver.inTransaction = false →
          status = .committed ∧ u = v.closing s.scopes.size .committed ∧
          (TrueOf (t.stage.run before) status m ↔ m.Commits (t.stage.run before))) := by
  have ht := hstarts.ready hout
  rw [exec_run_of_starts hstarts] at hrun
  obtain ⟨ms, v, tail, hreturned, hcourse, hend⟩ := returned_of_run ht hscript hrun
  obtain ⟨-, hclosed⟩ := hend.closed
  have hwhole := hcourse.append hend.course
  obtain ⟨m, hm⟩ := hwhole.ending ht (.inr hclosed.not_open)
  refine ⟨v, hreturned, hclosed, ⟨_, m, hwhole, hm⟩, ?_⟩
  intro before m behind h hbefore hlast
  constructor
  · rintro ending rfl
    -- the course has closed the scope so, and where it leads to the scope is closed with the status given back
    have hown := h.closed_of_ending ht.isOpen (Stage.ending?_eq_some_of_first hbefore hlast)
    obtain rfl := hown.unique hclosed
    exact trueOf_ended (Stage.allows_append.mp h.run.2).2.1
  · intro hopen hflag
    cases hend with
    | committed _ hin _ =>
        rw [hflag] at hin
        cases hin
    | assumed _ _ => exact ⟨rfl, rfl, trueOf_committed⟩
    | returned hended => exact absurd hopen hended.not_open

/-- A session at its start, on a driver that finds no rows and fails to commit if a failure is given. -/
def starting (commitFailure : Option DriverFault) : Session :=
  ((Session.start none).exec (Play.surroundings 2)
    (.ofDriver (.scripted ⟨.mysql, [{ rows := some [] }], none, commitFailure, none, 0, .null, false⟩) none)).2

/-- The same session where the script of a transaction on its builder is called. -/
def inside (commitFailure : Option DriverFault) : Session :=
  ((builderFor 0 0).exec (Play.surroundings 2) (starting commitFailure).opened).2.called .begin

/-- The same session behind a transaction that its script has rolled back. -/
def rolledBack : Session := ((run 0 BuilderCall.rollback.perform).exec (Play.surroundings 2) (starting none)).2

theorem starts_inside : Starts (Play.surroundings 2) 0 (starting none) 1 (inside none) :=
  .begun (t := ((builderFor 0 0).exec (Play.surroundings 2) (starting none).opened).2) rfl rfl rfl

theorem run_status_rolledBack :
    (run 0 BuilderCall.rollback.perform).exec (Play.surroundings 2) (starting none) =
      (.ok (.rolledBack, .null), rolledBack) ∧
    rolledBack.stage.Closed 0 .rolledBack ∧
    (∃ ms m, Course (inside none) ms rolledBack ∧ (inside none).stage.ending? ms = some m) ∧
    ∀ before m behind, Course (inside none) (before ++ m :: behind) rolledBack →
      (inside none).stage.ending? before = none →
      ((inside none).stage.run (before ++ [m])).driver.inTransaction = false →
      ∀ ending, m = .ended 0 ending → TrueOf ((inside none).stage.run before) .rolledBack m := by
  have hrun : (run 0 BuilderCall.rollback.perform).exec (Play.surroundings 2) (starting none) =
      (.ok (.rolledBack, .null), rolledBack) := rfl
  obtain ⟨_, -, hclosed, hends, htrue⟩ := run_status 2 rfl starts_inside (.call 1 .rollback trivial) hrun
  exact ⟨hrun, hclosed, hends, fun before m behind h hbefore hlast => (htrue before m behind h hbefore hlast).1⟩

/-- A script that fails at once. -/
def failing (_ : Nat) : Act Value := throw (.raised "boom")

/-- A script that runs a transaction inside, which fails, and catches the failure. -/
def catching (builder : Nat) : Act Value := tryCatch (do pure (← run builder failing).2) fun _ => pure .null

/-- The transaction inside rolls back, and the outer one counts as committed. -/
theorem not_run_status_caught :
    ((run 0 catching).exec (Play.surroundings 2) (starting none)).1.toOption = some (.committed, .null) ∧
    ((run 0 catching).exec (Play.surroundings 2) (starting none)).2.journal = [.wire .begin, .wire .rollback] := by
  have hscript : (catching 1).exec (Play.surroundings 2) (inside none) =
      (.ok .null, ((catching 1).exec (Play.surroundings 2) (inside none)).2) := Prod.ext rfl rfl
  have hrun := (exec_run_of_starts starts_inside).trans (begun_assumes hscript rfl rfl)
  rw [hrun]
  exact ⟨rfl, rfl⟩

/-! ### No transaction is left open -/

/-- The script has returned and left the scope open, so that a commit follows, and that commit fails. -/
structure LastCommitFails (env : Surroundings) (scope builder : Nat) (script : Nat → Act α) (t : Session)
    (fault : Fault) : Prop where
  returned : ∃ x, ((script builder).exec env t).1 = .ok x
  isOpen : ((script builder).exec env t).2.stage.Open scope
  flag : ((script builder).exec env t).2.driver.inTransaction = true
  commit : (DriverCall.commit.on ((script builder).exec env t).2.driver).1 = .error fault

/-- What follows the script is a course, too, and the driver has no transaction open behind it, unless the scope had
been closed; then the driver is left alone. -/
theorem begun_leaves_none [env.Keeps (Courses fun _ => True)] (ht : Ready scope builder t)
    (hscript : Callback env (.any env) (script builder) t) (hv : v = ((script builder).exec env t).2)
    (hrollback : DriverCall.rollback.Succeeds v.driver)
    (hcommit : ∀ fault, ¬ LastCommitFails env scope builder script t fault)
    (hu : u = ((begun scope builder script).exec env t).2) :
    (∃ ms, Course v ms u) ∧ (v.stage.Open scope → u.driver.inTransaction = false) ∧
      (¬ v.stage.Open scope → u.driver = v.driver) := by
  subst hu
  obtain ⟨ms, hcourse⟩ := course_of_callback hscript
  rw [← hv] at hcourse
  obtain ⟨outcome, hr⟩ : ∃ outcome, (script builder).exec env t = (outcome, v) := ⟨_, Prod.ext rfl hv.symm⟩
  obtain ⟨tail, hend⟩ := ending_of_begun hr (hcourse.roles _ _ ht.inScope) (hcourse.open_or_closed ht.isOpen)
  refine ⟨⟨tail, hend.course⟩, fun hopen => ?_, fun hclosed => ?_⟩
  · refine hend.flag hopen (hcourse.sound ht.sound) hrollback fun x hx hflag => ?_
    cases hlast : (DriverCall.commit.on v.driver).1 with
    | ok y => exact hlast
    | error fault =>
        refine absurd ?_ (hcommit fault)
        exact ⟨⟨x, by rw [hr, hx]⟩, by rwa [hr], by rwa [hr], by rwa [hr]⟩
  · rw [(hend.eq_of_not_open hclosed).2]

/-- A transaction that has been begun for its script has ended when it is left, in whatever way, if the driver can roll
back behind the script: the driver has no transaction open, unless the script has closed the scope itself and has
begun another transaction. The exception is a last commit that fails: its fault is raised, and no rollback follows. -/
theorem run_leaves_none (depth : Nat) (hout : s.driver.inTransaction = false)
    (hstarts : Starts (Play.surroundings depth) id s builder t)
    (hscript : Callback (Play.surroundings depth) (.any (Play.surroundings depth)) (script builder) t)
    (hv : v = ((script builder).exec (Play.surroundings depth) t).2)
    (hrollback : DriverCall.rollback.Succeeds v.driver)
    (hu : u = ((run id script).exec (Play.surroundings depth) s).2) :
    ((∀ fault, ¬ LastCommitFails (Play.surroundings depth) s.scopes.size builder script t fault) →
      (∃ ms, Course t ms u) ∧ (∀ ms, Course t ms u → ∃ m, t.stage.ending? ms = some m) ∧
      (v.stage.Open s.scopes.size → u.driver.inTransaction = false) ∧
      (¬ v.stage.Open s.scopes.size → u.driver = v.driver)) ∧
    ∀ fault, LastCommitFails (Play.surroundings depth) s.scopes.size builder script t fault →
      (run id script).exec (Play.surroundings depth) s =
        (.error ((v.called .commit).raised fault), v.called .commit) := by
  have ht := hstarts.ready hout
  obtain ⟨ms, hcourse⟩ := course_of_callback hscript
  rw [← hv] at hcourse
  rw [exec_run_of_starts hstarts] at hu ⊢
  constructor
  · intro hcommit
    obtain ⟨⟨ms', hcourse'⟩, hopen, hclosed⟩ := begun_leaves_none ht hscript hv hrollback hcommit hu
    refine ⟨⟨_, hcourse.append hcourse'⟩, fun ms h => ?_, hopen, hclosed⟩
    obtain hstill | ⟨status, hended⟩ := hcourse.open_or_closed ht.isOpen
    · exact h.ending ht (.inl (hopen hstill))
    · have hlast : u.stage.Closed s.scopes.size status := by
        rw [hcourse'.run.1]
        exact hended.run hcourse'.run.2
      exact h.ending ht (.inr hlast.not_open)
  · intro fault h
    obtain ⟨⟨x, hx⟩, hopen, hflag, hfails⟩ := h
    rw [← hv] at hopen hflag hfails
    exact begun_fails (Prod.ext hx hv.symm) (hcourse.roles _ _ ht.inScope) hopen hflag hfails

theorem run_leaves_none_failing :
    (failing 1).exec (Play.surroundings 2) (inside none) = (.error (.raised "boom"), inside none) ∧
    (∀ ms, Course (inside none) ms ((run 0 failing).exec (Play.surroundings 2) (starting none)).2 →
      ∃ m, (inside none).stage.ending? ms = some m) ∧
    ((run 0 failing).exec (Play.surroundings 2) (starting none)).2.driver.inTransaction = false := by
  have hscript : Callback (Play.surroundings 2) (.any (Play.surroundings 2)) (failing 1) (inside none) :=
    Composed.throw (.raised "boom") (inside none)
  have hfails : ∀ fault, ¬ LastCommitFails (Play.surroundings 2) 0 1 failing (inside none) fault := by
    rintro fault ⟨⟨x, hx⟩, -⟩
    cases hx
  obtain ⟨hleft, -⟩ := run_leaves_none 2 rfl starts_inside hscript rfl rfl rfl
  obtain ⟨-, hended, hopen, -⟩ := hleft hfails
  exact ⟨rfl, hended, hopen rfl⟩

/-- What the driver reports about its commits. -/
def lost : DriverFault := ⟨.text "HY000", .int 1, .text "connection lost"⟩

/-- The driver fails to commit and could roll back, but is not told to. It is left in the transaction. -/
theorem not_run_leaves_none_commit :
    DriverCall.rollback.Succeeds (inside (some lost)).driver ∧
    ((run 0 fun _ => pure Value.null).exec (Play.surroundings 2) (starting (some lost))).2.driver.inTransaction = true ∧
    ((run 0 fun _ => pure Value.null).exec (Play.surroundings 2) (starting (some lost))).2.journal =
      [.wire .begin, .wire .commit] :=
  ⟨rfl, rfl, rfl⟩

end Transaction

end SqlBuilder
