import SqlBuilder.Proofs.Transaction.Outcome

/-!
Transactions that run single statements and are ended by hand at most, with no transaction inside and no call of the
driver beside them. The driver begins once, in front of the script; of all calls that end the transaction at most one
succeeds, and it closes the scope. What is done behind the script depends on whether it has left the scope open.
-/

namespace SqlBuilder

open Act Session

variable {α : Type}

/-! ### Ends of a transaction -/

namespace Move

/-- The driver is told to end a transaction, and does. -/
def isEnd (σ : Stage) (m : Move) : Bool :=
  match m.call? with
  | some .commit => (DriverCall.commit.on σ.driver).1.isOk
  | some .rollback => (DriverCall.rollback.on σ.driver).1.isOk
  | _ => false

/-- The move is a statement or one that is to end the transaction for the scope. -/
def Flat (scope : Nat) : Move → Prop
  | call c => c.IsStatement
  | ended other _ => other = scope
  | refused other _ => other = scope
  | opened => False
  | assumed _ => False

variable {σ : Stage} {m : Move} {status : TransactionStatus}

theorem isEnd_iff (h : m.call? = some status.call) : m.isEnd σ = true ↔ status.call.Succeeds σ.driver := by
  have hiff : ∀ outcome : Except Fault Unit, outcome.isOk = true ↔ outcome = .ok () := by
    intro outcome
    cases outcome with
    | ok x => exact ⟨fun _ => rfl, fun _ => rfl⟩
    | error fault => exact ⟨nofun, nofun⟩
  unfold isEnd
  rw [h]
  cases status with
  | committed => exact hiff _
  | rolledBack => exact hiff _

theorem isEnd_statement {c : DriverCall} (hc : c.IsStatement) : (call c).isEnd σ = false := by
  cases c with
  | execute sql values => rfl
  | askInsertId => rfl
  | _ => cases hc

end Move

namespace Driver

/-- An end that fails leaves the flag as it is. -/
def Exact (d : Driver) : Prop :=
  ∀ status : TransactionStatus, ¬ status.call.Succeeds d → (status.call.after d).inTransaction = d.inTransaction

/-- A driver whose answers are fixed in advance clears its flag only when it succeeds. -/
theorem exact_scripted (d : ScriptedDriver) : (scripted d).Exact := by
  have hmark : ∀ (entry : WireEntry) (failure : Option DriverFault),
      ((ScriptedDriver.mark entry failure false).run d).1 ≠ .ok () →
      ((ScriptedDriver.mark entry failure false).run d).2.1.inTransaction = d.inTransaction := by
    intro entry failure hfails
    cases failure with
    | some report => rfl
    | none => exact absurd rfl hfails
  intro status hfails
  cases status with
  | committed => exact hmark .commit d.commitFailure hfails
  | rolledBack => exact hmark .rollback d.rollbackFailure hfails

end Driver

namespace Stage

variable {σ : Stage} {ms ms' : List Move} {scope : Nat} {status : TransactionStatus}

/-- How often the driver has ended a transaction. -/
def ends (σ : Stage) : List Move → Nat
  | [] => 0
  | m :: ms => (m.isEnd σ).toNat + (σ.after m).ends ms

theorem ends_append : σ.ends (ms ++ ms') = σ.ends ms + (σ.run ms).ends ms' := by
  induction ms generalizing σ with
  | nil => simp [ends]
  | cons m ms ih => simp only [List.cons_append, ends, run_cons, ih, Nat.add_assoc]

/-- Wherever a move is made, ends that fail leave the transaction of the driver open. -/
def Exact (σ : Stage) : List Move → Prop
  | [] => True
  | m :: ms => σ.driver.Exact ∧ (σ.after m).Exact ms

theorem exact_append : σ.Exact (ms ++ ms') ↔ σ.Exact ms ∧ (σ.run ms).Exact ms' := by
  induction ms generalizing σ with
  | nil => simp [Exact]
  | cons m ms ih => simp only [List.cons_append, Exact, run_cons, ih, and_assoc]

theorem exact_of_scripted {d : ScriptedDriver} (hd : σ.driver = .scripted d) (ms : List Move) : σ.Exact ms := by
  induction ms generalizing σ d with
  | nil => trivial
  | cons m ms ih =>
      have hafter : ∃ d', (σ.after m).driver = .scripted d' := by
        unfold after
        dsimp only
        rw [hd]
        cases m.call? with
        | none => exact ⟨d, rfl⟩
        | some c => cases c <;> exact ⟨_, rfl⟩
      obtain ⟨d', hd'⟩ := hafter
      refine ⟨?_, ih hd'⟩
      rw [hd]
      exact Driver.exact_scripted d

/-- No end follows for a scope that has ended. -/
theorem ends_of_closed (hclosed : σ.Closed scope status) (hms : σ.Allows ms) (hflat : ∀ m ∈ ms, m.Flat scope) :
    σ.ends ms = 0 := by
  induction ms generalizing σ with
  | nil => rfl
  | cons m ms ih =>
      obtain ⟨hm, hrest⟩ := List.forall_mem_cons.mp hflat
      have hlater := ih (hclosed.after hms.1) hms.2 hrest
      cases m with
      | call c => simp only [ends, Move.isEnd_statement hm, hlater, Bool.toNat_false]
      | ended other ending =>
          obtain rfl : other = scope := hm
          exact absurd hms.1.1 hclosed.not_unended
      | refused other ending =>
          obtain rfl : other = scope := hm
          exact absurd hms.1.1 hclosed.not_unended
      | opened => cases hm
      | assumed other => cases hm

/-- The scope is open as long as the driver has ended no transaction, and the transaction is open as well. The first
end closes the scope and remains the only one. -/
theorem open_or_ended (hσ : σ.driver.Sound) (hopen : σ.Open scope) (hflag : σ.driver.inTransaction = true)
    (hms : σ.Allows ms) (hflat : ∀ m ∈ ms, m.Flat scope) (hexact : σ.Exact ms) :
    (σ.ends ms = 0 ∧ (σ.run ms).Open scope ∧ (σ.run ms).driver.inTransaction = true) ∨
    (σ.ends ms = 1 ∧ ∃ status, (σ.run ms).Closed scope status) := by
  induction ms generalizing σ with
  | nil => exact .inl ⟨rfl, hopen, hflag⟩
  | cons m ms ih =>
      obtain ⟨hm, hrest⟩ := List.forall_mem_cons.mp hflat
      have hstill : m.isEnd σ = false → (σ.after m).Open scope → (σ.after m).driver.inTransaction = true →
          (σ.ends (m :: ms) = 0 ∧ (σ.run (m :: ms)).Open scope ∧ (σ.run (m :: ms)).driver.inTransaction = true) ∨
          (σ.ends (m :: ms) = 1 ∧ ∃ status, (σ.run (m :: ms)).Closed scope status) := by
        intro hend hopen' hflag'
        simp only [ends, hend, Bool.toNat_false, Nat.zero_add, run_cons]
        exact ih (sound_after hσ) hopen' hflag' hms.2 hrest hexact.2
      cases m with
      | call c =>
          refine hstill (Move.isEnd_statement hm) hopen ?_
          exact (DriverCall.after_statement hm).1.trans hflag
      | ended other ending =>
          obtain rfl : other = scope := hm
          have hend : (Move.ended other ending).isEnd σ = true := (Move.isEnd_iff rfl).mpr hms.1.2
          obtain ⟨-, hclosed⟩ | ⟨hne, -⟩ := closed_modify other ending hopen
          · -- this is the one end, since none follows behind it
            have hclosed' : (σ.after (.ended other ending)).Closed other ending := hclosed
            have hlater := ends_of_closed hclosed' hms.2 hrest
            refine .inr ⟨?_, ending, hclosed'.run hms.2⟩
            simp only [ends, hend, hlater, Bool.toNat_true]
          · exact absurd rfl hne
      | refused other ending =>
          refine hstill (Bool.eq_false_iff.mpr fun h => hms.1.2 ((Move.isEnd_iff rfl).mp h)) hopen ?_
          exact (hexact.1 ending hms.1.2).trans hflag
      | opened => cases hm
      | assumed other => cases hm

end Stage

/-! ### Flat scripts -/

variable {env : Surroundings} {s t u v : Session} {id builder scope : Nat} {script : Nat → Act α}

/-- Single statements may be executed, also by the scripts of hooks, and the transaction of the scope may be ended. -/
def Conduct.flat (env : Surroundings) (scope : Nat) : Conduct where
  own := Scripted (env.within (Courses (Move.Flat scope)))
  call s id c := Confined (Courses (Move.Flat scope)) env (c.perform id) s ∧
    (c.purpose = .finish → s.InScope scope id) ∧
    ∀ verb data, c.inserted? = some (verb, data) → Transaction.rowsOf verb data = none
  direct _ _ := False
  nested _ _ _ _ := False

namespace Transaction

/-- To end the transaction of a scope is a flat move, if anything comes of it. -/
theorem courses_finish (hid : s.InScope scope id) (status : TransactionStatus) :
    Courses (Move.Flat scope) s ((finish id status).exec env s).2 := by
  rcases Execute.requireOpen_cases env id s with ⟨fault, hstops⟩ | ⟨b, hb, hopen, hscope⟩
  · rw [exec_finish_stops status hstops]
    exact refl_of _ s
  · obtain ⟨b', hb', hrole⟩ := hid
    obtain rfl : b' = b := Option.some.inj (hb'.symm.trans hb)
    rw [exec_finish status hb hopen, hrole]
    cases hcall : (status.call.on s.driver).1 with
    | ok x => exact .of_move (m := .ended scope status) rfl (.ended status (hscope scope hrole) hcall)
    | error fault =>
        refine .of_move (m := .refused scope status) rfl (.refused status (hscope scope hrole) fun hsucceeds => ?_)
        rw [DriverCall.Succeeds, hcall] at hsucceeds
        cases hsucceeds

end Transaction

namespace BuilderCall

theorem courses_perform_finish (hid : s.InScope scope id) {c : BuilderCall} (hc : c.purpose = .finish) :
    Courses (Move.Flat scope) s ((c.perform id).exec env s).2 := by
  have hfinish : ∀ status, Courses (Move.Flat scope) s ((silently do
      let _ ← scopeOf id
      Transaction.finish id status).exec env s).2 := by
    intro status
    unfold silently
    rw [bind_assoc]
    refine Keeps.bind_at (keeps_scopeOf id) fun _ t ht => ?_
    obtain rfl : s = t := (keeps_scopeOf (R := Eq) id).of_exec ht
    rw [exec_bind]
    have hcourse : Courses (Move.Flat scope) s ((Transaction.finish id status).exec env s).2 :=
      Transaction.courses_finish hid status
    rcases hr : (Transaction.finish id status).exec env s with ⟨outcome, u⟩
    rw [hr] at hcourse
    cases outcome with
    | ok x => exact hcourse
    | error fault => exact hcourse
  cases c with
  | commit => exact hfinish _
  | rollback => exact hfinish _
  | _ => cases hc

end BuilderCall

theorem Callback.courses_flat {op : Act α} (h : Callback env (.flat env scope) op s) :
    Courses (Move.Flat scope) s (op.exec env s).2 := by
  have hexecutes : (env.within (Courses (Move.Flat scope))).Executes (Courses (Move.Flat scope)) :=
    executes_courses fun _ hc => hc
  refine h.keeps ?_ ?_ ?_ ?_ ?_
  · exact fun s t hst => hst.of_keeps Lax.quiet
  · rintro s id c ⟨hconfined, hfinish, hinserted⟩
    rw [← hconfined]
    refine BuilderCall.perform_at s id c (fun hc => ?_) (fun hc => ?_) fun verb data hdata t _ => ?_
    · exact Keeps.working.perform id hc s
    · exact BuilderCall.courses_perform_finish (hfinish hc) hc
    · exact Transaction.keeps_insert_row id (hinserted verb data hdata) t
  · exact fun _ _ hdirect => hdirect.elim
  · exact fun _ _ _ hnested => hnested.elim
  · rintro s t report inner ⟨ms, hms, hcourse⟩
    exact ⟨ms, hms, hcourse.resumed report inner⟩

namespace Transaction

/-! ### The end of a transaction with a flat script -/

variable {outcome : Except Fault α} {result : Except Fault (TransactionStatus × α)} {ms tail : List Move}

/-- At most one end follows, and none if the scope has ended. -/
theorem Ending.ends (h : Ending scope v outcome result tail u) :
    v.stage.ends tail ≤ 1 ∧ (¬ v.stage.Open scope → v.stage.ends tail = 0) := by
  have hone : ∀ m : Move, v.stage.ends [m] ≤ 1 := by
    intro m
    simp only [Stage.ends, Nat.add_zero]
    exact Bool.toNat_le _
  constructor
  · cases h with
    | left => exact Nat.zero_le 1
    | raised => exact Nat.zero_le 1
    | returned => exact Nat.zero_le 1
    | _ => exact hone _
  · intro hclosed
    rw [(h.eq_of_not_open hclosed).1]
    rfl

/-- The course of a transaction with a flat script. -/
structure FlatRun (scope : Nat) (t v u : Session) (outcome : Except Fault α)
    (result : Except Fault (TransactionStatus × α)) (ms tail : List Move) : Prop where
  script : Course t ms v
  flat : ∀ m ∈ ms, m.Flat scope
  /-- At every point of the script the scope is open and nothing has ended, or there has been one end and the scope is
  closed. -/
  points : ∀ before, before <+: ms →
    (t.stage.ends before = 0 ∧ (t.stage.run before).Open scope) ∨
    (t.stage.ends before = 1 ∧ ∃ status, (t.stage.run before).Closed scope status)
  /-- The driver has its transaction open as long as the scope is open, so that it can be told to end it. -/
  inside : v.stage.Open scope → v.driver.inTransaction = true
  behind : Course v tail u
  last : Ending scope v outcome result tail u
  once : t.stage.ends (ms ++ tail) ≤ 1

theorem flatRun_of_begun (ht : Ready scope builder t) (hscript : Callback env (.flat env scope) (script builder) t)
    (hr : (script builder).exec env t = (outcome, v)) (hexact : ∀ ms, Course t ms v → t.stage.Exact ms) :
    ∃ ms tail, FlatRun scope t v ((begun scope builder script).exec env t).2 outcome
      ((begun scope builder script).exec env t).1 ms tail := by
  have hcourses : Courses (Move.Flat scope) t ((script builder).exec env t).2 := hscript.courses_flat
  rw [hr] at hcourses
  obtain ⟨ms, hflat, hcourse⟩ : Courses (Move.Flat scope) t v := hcourses
  obtain ⟨hstage, hms⟩ := hcourse.run
  have hpoints : ∀ before behind, ms = before ++ behind →
      (t.stage.ends before = 0 ∧ (t.stage.run before).Open scope ∧ (t.stage.run before).driver.inTransaction = true) ∨
      (t.stage.ends before = 1 ∧ ∃ status, (t.stage.run before).Closed scope status) := by
    rintro before behind rfl
    refine Stage.open_or_ended ht.sound ht.isOpen ht.flag (Stage.allows_append.mp hms).1 (fun m hm => ?_) ?_
    · exact hflat m (List.mem_append_left behind hm)
    · exact (Stage.exact_append.mp (hexact _ hcourse)).1
  have hlast := hpoints ms [] (List.append_nil ms).symm
  rw [← hstage] at hlast
  have hleft : v.stage.Open scope ∨ ∃ status, v.stage.Closed scope status := hlast.imp (fun h => h.2.1) And.right
  obtain ⟨tail, htail⟩ := ending_of_begun hr (hcourse.roles _ _ ht.inScope) hleft
  refine ⟨ms, tail, hcourse, hflat, ?_, ?_, htail.course, htail, ?_⟩
  · rintro before ⟨behind, rfl⟩
    exact (hpoints before behind rfl).imp (fun h => ⟨h.1, h.2.1⟩) id
  · intro hopen
    obtain ⟨-, -, hflag⟩ | ⟨-, status, hclosed⟩ := hlast
    · exact hflag
    · exact absurd hopen hclosed.not_open
  · rw [Stage.ends_append, ← hstage]
    obtain ⟨hone, hnone⟩ := htail.ends
    obtain ⟨hms, -, -⟩ | ⟨hms, status, hclosed⟩ := hlast
    · omega
    · have htail := hnone hclosed.not_open
      omega

/-- A transaction is begun once and before anything else. If that fails then the script is not called. A script that
executes single statements, and ends the transaction by hand at most, runs behind the beginning; of all ends of the
transaction at most one succeeds, and the scope is closed exactly behind it. If the script fails with the scope open
then the driver rolls back once and the failure is raised, unless the rollback itself fails with something that is no
report. If the script returns with the scope open then the driver commits once. With the scope closed nothing is
called. -/
theorem run_flat (hout : s.driver.inTransaction = false)
    (hcopy : (builderFor id s.scopes.size).exec env s.opened = (.ok builder, t))
    (hscript : DriverCall.begin.Succeeds t.driver →
      Callback env (.flat env s.scopes.size) (script builder) (t.called .begin))
    (hr : (script builder).exec env (t.called .begin) = (outcome, v))
    (hexact : ∀ ms, Course (t.called .begin) ms v → (t.called .begin).stage.Exact ms) :
    (∀ fault, (DriverCall.begin.on t.driver).1 = .error fault →
      (run id script).exec env s = (.error ((t.called .begin).raised fault), t.called .begin)) ∧
    (DriverCall.begin.Succeeds t.driver → ∃ ms tail u result,
      (run id script).exec env s = (result, u) ∧
      Course s ([.opened, .call .begin] ++ ms ++ tail) u ∧
      FlatRun s.scopes.size (t.called .begin) v u outcome result ms tail) := by
  obtain ⟨hdriver, -, hopen, hbuilder⟩ := copied hcopy
  have hflag : t.driver.inTransaction = false := by rw [hdriver, hout]
  have hbegin : (Execute.reported Driver.begin).exec env t = _ := Execute.exec_reported_call .begin (fun _ => rfl) t
  constructor
  · intro fault hfails
    rw [hfails] at hbegin
    have hnew : Act.newScope.exec env s = (.ok s.scopes.size, s.opened) := rfl
    rw [run_eq, exec_bind_ok hnew, exec_bind_ok hcopy, exec_bind, exec_get]
    dsimp only
    rw [if_neg (Bool.eq_false_iff.mp hflag), exec_bind_error hbegin]
  · intro hsucceeds
    rw [show (DriverCall.begin.on t.driver).1 = .ok () from hsucceeds] at hbegin
    obtain ⟨ms, tail, hrun⟩ :=
      flatRun_of_begun (ready_called hsucceeds hopen hbuilder) (hscript hsucceeds) hr hexact
    refine ⟨ms, tail, _, _, exec_run_of_starts (.begun hcopy hflag hbegin), ?_, hrun⟩
    have hquiet : Course s.opened [] t := .of_quiet ((quiet_builderFor id _).of_exec hcopy)
    exact ((((Course.opened s).append hquiet).append (.called t .begin)).append hrun.script).append hrun.behind

/-- A script that reads something and then fails. -/
def reading (builder : Nat) : Act Value := do
  let _ ← (BuilderCall.statement (.text "SELECT 1") (.list [])).perform builder
  failing builder

theorem run_flat_reading :
    (reading 1).exec (Play.surroundings 2) (inside none) =
      (.error (.raised "boom"), ((reading 1).exec (Play.surroundings 2) (inside none)).2) ∧
    ∃ ms tail u result, (run 0 reading).exec (Play.surroundings 2) (starting none) = (result, u) ∧
      Course (starting none) ([.opened, .call .begin] ++ ms ++ tail) u ∧
      FlatRun 0 (inside none) ((reading 1).exec (Play.surroundings 2) (inside none)).2 u
        (.error (.raised "boom")) result ms tail := by
  have hreading : (reading 1).exec (Play.surroundings 2) (inside none) =
      (.error (.raised "boom"), ((reading 1).exec (Play.surroundings 2) (inside none)).2) := rfl
  have hscript : Callback (Play.surroundings 2) (.flat (Play.surroundings 2) 0) (reading 1) (inside none) := by
    refine .bind (.call 1 _ ⟨(Unscripted.statement _ _ 1).confined _, ?_, ?_⟩) fun _ t _ => .own ?_
    · exact nofun
    · exact nofun
    · exact refl_of (Scripted _) t
  have hout : (starting none).driver.inTransaction = false := rfl
  have hcopy : (builderFor 0 (starting none).scopes.size).exec (Play.surroundings 2) (starting none).opened =
      (.ok 1, ((builderFor 0 0).exec (Play.surroundings 2) (starting none).opened).2) := rfl
  have hexact : ∀ ms, Course (inside none) ms ((reading 1).exec (Play.surroundings 2) (inside none)).2 →
      (inside none).stage.Exact ms := fun ms _ => Stage.exact_of_scripted rfl ms
  have hbegun := (run_flat hout hcopy (fun _ => hscript) hreading hexact).2
  exact ⟨hreading, hbegun rfl⟩

/-- A session at its start, on a database that begins a transaction and raises a warning about its rollback. -/
def warned : Session :=
  ((Session.start none).exec (Play.surroundings 2)
    (.ofDriver (.sqlite { replies := [{}, { failure := some ⟨"Warning", "no transaction", none⟩ }] }) none)).2

/-- The script fails, but the warning about the rollback is raised. The driver believes that the transaction is still
open, as it should if its rollback has failed. -/
theorem not_run_flat_warned :
    ((run 0 failing).exec (Play.surroundings 2) warned).1 = .error (.foreign "Warning") ∧
    ((run 0 failing).exec (Play.surroundings 2) warned).2.driver.inTransaction = true ∧
    ((run 0 failing).exec (Play.surroundings 2) warned).2.journal =
      [.wire (.prepared (.text "BEGIN") []), .wire (.prepared (.text "ROLLBACK") [])] := by
  refine ⟨?_, ?_, ?_⟩
  · rfl
  · rfl
  · rfl

end Transaction

end SqlBuilder
