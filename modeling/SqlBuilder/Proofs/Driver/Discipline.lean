import Mathlib.Data.List.Basic
import SqlBuilder.Proofs.Driver.History

/-!
The discipline of a driver for connections with cursors. In a transaction its statements neither commit nor roll back.
Outside, a statement that returns has been committed once, and one that fails, or whose commit fails, is rolled back
once. Every cursor is closed once, at last. This holds for every call of every history, whatever the connection does
meanwhile, as long as it fails with errors that its module declares.
-/

namespace SqlBuilder

namespace CursorDriver

open Talk

/-- The connection gives a cursor for the call. -/
def obtainsCursor (d : CursorDriver) : DriverCall → Bool
  | .execute sql _ => d.isOpen && (d.style.convertValue sql).isOk && d.cursorFailure.isNone
  | .askInsertId => d.isOpen && d.identityPending && (identityQuery? d.engine).isSome && d.cursorFailure.isNone
  | _ => false

def wire (d : CursorDriver) (c : DriverCall) : List WireEntry := (c.on (.cursor d)).2.2

/-- The call keeps to the discipline. -/
structure Disciplined (d : CursorDriver) (c : DriverCall) : Prop where
  /-- In a transaction the connection is told neither to commit nor to roll back. -/
  inside : c.IsStatement → d.inTransaction = true → ∀ entry ∈ d.wire c, entry.isEnd = false
  /-- Outside, a statement that returns has been committed once and never rolled back. -/
  returned : ∀ sql values, c = .execute sql values → d.inTransaction = false → d.obtainsCursor c = true →
    c.Succeeds (.cursor d) → ∃ sql' values', d.wire c = [.cursor sql' values', .commit, .cursorClose]
  /-- A failure of the statement is followed by one rollback. -/
  statementFailed : ∀ sql values, c = .execute sql values → d.inTransaction = false → d.obtainsCursor c = true →
    d.reply.failure.isSome = true → ∃ sql' values', d.wire c = [.cursor sql' values', .rollback, .cursorClose]
  /-- So is a failure of its commit. -/
  commitFailed : ∀ sql values, c = .execute sql values → d.inTransaction = false → d.obtainsCursor c = true →
    d.sendsCommit = true → d.commitFailure.isSome = true →
    ∃ sql' values', d.wire c = [.cursor sql' values', .commit, .rollback, .cursorClose]
  /-- A cursor is closed once, behind all else. -/
  closed : d.obtainsCursor c = true →
    ∃ front, d.wire c = front ++ [.cursorClose] ∧ ∀ entry ∈ front, entry.isCursorClose = false
  /-- Without a cursor nothing reaches the connection. -/
  untouched : c.IsStatement → d.obtainsCursor c = false → d.wire c = []

variable {d : CursorDriver} {sql : Value} {values : List Value}

/-! ### Statements -/

theorem obtainsCursor_execute_iff : d.obtainsCursor (.execute sql values) = true ↔
    d.isOpen = true ∧ (∃ converted, d.style.convertValue sql = .ok converted) ∧ d.cursorFailure = none := by
  unfold obtainsCursor
  rw [Bool.and_eq_true, Bool.and_eq_true, Option.isNone_iff_eq_none, and_assoc]
  cases d.style.convertValue sql with
  | ok converted => simp [Except.isOk, Except.toBool]
  | error e => simp [Except.isOk, Except.toBool]

/-- Without a cursor nothing reaches the connection. -/
theorem wire_execute_of_not_obtainsCursor (h : d.obtainsCursor (.execute sql values) = false) :
    d.wire (.execute sql values) = [] := by
  change (exec (execute sql values) (d, [])).2.2 = []
  unfold execute
  rw [guards_requireOpen.exec_checked]
  by_cases hopen : d.isOpen = true
  · rw [if_pos hopen, exec_state_bind]
    cases hsql : d.style.convertValue sql with
    | error e => rfl
    | ok converted =>
        cases hcursor : d.cursorFailure with
        | none =>
            rw [obtainsCursor_execute_iff.2 ⟨hopen, ⟨converted, hsql⟩, hcursor⟩] at h
            cases h
        | some f =>
            change (exec (withCursor (attempt d converted (d.style.bind values)) >>= _) (d, [])).2.2 = []
            rw [exec_bind, exec_withCursor, hcursor]
  · rw [if_neg hopen]

theorem statementEnd_of_failed (hout : d.inTransaction = false) (hfailed : d.reply.failure.isSome = true) :
    d.statementEnd = [.rollback] := by
  obtain ⟨f, hf⟩ := Option.isSome_iff_exists.1 hfailed
  simp [statementEnd, sendsCommit, statementFailure, hf, hout]

theorem statementEnd_of_commit_failed (hout : d.inTransaction = false) (hcommit : d.sendsCommit = true)
    (hfailed : d.commitFailure.isSome = true) : d.statementEnd = [.commit, .rollback] := by
  have hreply : d.reply.failure = none := by
    simp only [sendsCommit, Bool.and_eq_true, Option.isNone_iff_eq_none] at hcommit
    exact hcommit.1.1
  simp [statementEnd, statementFailure, hcommit, hreply, hfailed, hout]

/-- The entries between the statement and the close are not about the cursor. -/
theorem isCursorClose_of_mem_statementEnd {entry : WireEntry} (h : entry ∈ d.statementEnd) :
    entry.isCursorClose = false := by
  unfold statementEnd at h
  rcases List.mem_append.1 h with h | h
  · split at h
    · rw [List.mem_singleton.1 h]
      rfl
    · cases h
  · split at h
    · rw [List.mem_singleton.1 h]
      rfl
    · cases h

section Declared

variable (hdeclared : ∀ f ∈ d.failures, d.Declares f)

include hdeclared

theorem wire_execute (hobtains : d.obtainsCursor (.execute sql values) = true) :
    ∃ sql' values', d.wire (.execute sql values) = .cursor sql' values' :: d.statementEnd ++ [.cursorClose] := by
  obtain ⟨hopen, ⟨converted, hsql⟩, hcursor⟩ := obtainsCursor_execute_iff.1 hobtains
  have hfailure : ∀ f ∈ d.statementFailure, d.Declares f := fun f hf => hdeclared f (mem_failures_of_statement hf)
  refine ⟨converted, some (d.style.bind values), ?_⟩
  change (exec (execute sql values) (d, [])).2.2 = _
  rw [exec_execute_converted hopen hsql hcursor hfailure]
  rcases d.cursorCloseFailure with _ | f
  · rcases d.attemptOutcome with e | e | result
    · rfl
    · rfl
    · obtain ⟨outcome, d', hremember, -⟩ := exec_remember d.engine sql result d.advance
        ([] ++ .cursor converted (some (d.style.bind values)) :: d.statementEnd ++ [.cursorClose])
      dsimp only
      rw [hremember]
      rfl
  · rfl

/-- A statement that returns has met no failure, and so it has been committed outside a transaction. -/
theorem statementEnd_of_succeeds (hobtains : d.obtainsCursor (.execute sql values) = true)
    (h : (DriverCall.execute sql values).Succeeds (.cursor d)) (hout : d.inTransaction = false) :
    d.statementEnd = [.commit] := by
  obtain ⟨hopen, ⟨converted, hsql⟩, hcursor⟩ := obtainsCursor_execute_iff.1 hobtains
  have hfailure : ∀ f ∈ d.statementFailure, d.Declares f := fun f hf => hdeclared f (mem_failures_of_statement hf)
  change (exec (execute sql values) (d, [])).1.map (fun _ => ()) = .ok () at h
  rw [exec_execute_converted hopen hsql hcursor hfailure] at h
  cases hclose : d.cursorCloseFailure with
  | some f =>
      rw [hclose] at h
      cases h
  | none =>
      rw [hclose] at h
      cases hattempt : d.attemptOutcome with
      | error e =>
          rw [hattempt] at h
          cases h
      | ok outcome =>
          obtain ⟨hmet, rfl⟩ := attemptOutcome_eq_ok hattempt
          cases hresult : resultOf d.reply with
          | error e =>
              rw [hattempt, hresult] at h
              cases h
          | ok result =>
              have hcommit : d.sendsCommit = true := by
                unfold sendsCommit
                rw [reply_ok_of_statementFailure hmet, hresult, hout]
                rfl
              simp [statementEnd, hcommit, hmet]

end Declared

/-! ### Generated identifiers -/

theorem obtainsCursor_askInsertId_iff : d.obtainsCursor .askInsertId = true ↔
    d.isOpen = true ∧ d.identityPending = true ∧ (∃ query, identityQuery? d.engine = some query) ∧
      d.cursorFailure = none := by
  unfold obtainsCursor
  rw [Bool.and_eq_true, Bool.and_eq_true, Bool.and_eq_true, Option.isNone_iff_eq_none, Option.isSome_iff_exists,
    and_assoc, and_assoc]

/-- The identifier is read back on a cursor of its own. -/
theorem wire_askInsertId {query : String} (hopen : d.isOpen = true) (hpending : d.identityPending = true)
    (hquery : identityQuery? d.engine = some query) :
    d.wire .askInsertId = (exec (withCursor (lookUp d.settled query)) (d.settled, [])).2.2 := by
  have hopen' : d.settled.isOpen = true := hopen
  change (exec askInsertId (d, [])).2.2 = _
  rw [exec_askInsertId hpending hquery, exec_readIdentity hopen']
  rcases exec (withCursor (lookUp d.settled query)) (d.settled, []) with ⟨e | cell, w'⟩
  · rfl
  · cases hid : identifierOf cell with
    | ok id => simp only [hid]
    | error e => simp only [hid]

theorem closed_askInsertId (hobtains : d.obtainsCursor .askInsertId = true) :
    ∃ front, d.wire .askInsertId = front ++ [.cursorClose] ∧ ∀ entry ∈ front, entry.isCursorClose = false := by
  obtain ⟨hopen, hpending, ⟨query, hquery⟩, hcursor⟩ := obtainsCursor_askInsertId_iff.1 hobtains
  have hcursor' : d.settled.cursorFailure = none := hcursor
  refine ⟨(exec (lookUp d.settled query) (d.settled, [])).2.2, ?_, ?_⟩
  · rw [wire_askInsertId hopen hpending hquery, exec_withCursor, hcursor']
  · have hcoarse : Coarse fun w => w.2.countP WireEntry.isCursorClose := coarse_countP (fun _ _ => rfl) fun _ => rfl
    have hends : d.settled.inTransaction = false → Leaves (fun w => w.2.countP WireEntry.isCursorClose) Call.commit ∧
        Leaves (fun w => w.2.countP WireEntry.isCursorClose) Call.rollback := fun _ =>
      ⟨Call.leaves_signal_of _ fun _ _ => by simp [WireEntry.isCursorClose],
        Call.leaves_signal_of _ fun _ _ => by simp [WireEntry.isCursorClose]⟩
    have hcount := leaves_lookUp (w := (d.settled, [])) hcoarse.steady hends query (d.settled, [])
    intro entry hentry
    exact Bool.eq_false_iff.mpr (List.countP_eq_zero.1 hcount entry hentry)

theorem wire_askInsertId_of_not_obtainsCursor (h : d.obtainsCursor .askInsertId = false) :
    d.wire .askInsertId = [] := by
  rcases d.idle_or_asks with hidle | ⟨query, hpending, hquery⟩
  · obtain ⟨d', hexec⟩ := exec_askInsertId_idle hidle []
    change (exec askInsertId (d, [])).2.2 = []
    rw [hexec]
  · by_cases hopen : d.isOpen = true
    · cases hcursor : d.cursorFailure with
      | none =>
          rw [obtainsCursor_askInsertId_iff.2 ⟨hopen, hpending, ⟨query, hquery⟩, hcursor⟩] at h
          cases h
      | some f =>
          have hcursor' : d.settled.cursorFailure = some f := hcursor
          rw [wire_askInsertId hopen hpending hquery, exec_withCursor, hcursor']
    · have hopen' : ¬ d.settled.isOpen = true := hopen
      change (exec askInsertId (d, [])).2.2 = []
      rw [exec_askInsertId hpending hquery]
      unfold readIdentity
      rw [guards_requireOpen.exec_checked, if_neg hopen']

/-! ### Calls -/

/-- In a transaction a call for a statement ends nothing. -/
theorem isEnd_of_mem_wire {c : DriverCall} (hc : c.IsStatement) (hin : d.inTransaction = true) :
    ∀ entry ∈ d.wire c, entry.isEnd = false := by
  have hcoarse : Coarse fun w => w.2.countP WireEntry.isEnd := coarse_countP (fun _ _ => rfl) fun _ => rfl
  have hclose : Leaves (fun w : CursorDriver × List WireEntry => w.2.countP WireEntry.isEnd) Call.closeCursor :=
    Call.leaves_signal_of _ fun _ _ => by simp [WireEntry.isEnd]
  have hends : d.inTransaction = false → Leaves (fun w => w.2.countP WireEntry.isEnd) Call.commit ∧
      Leaves (fun w => w.2.countP WireEntry.isEnd) Call.rollback := fun hout => by rw [hin] at hout; cases hout
  have hcount : (d.wire c).countP WireEntry.isEnd = 0 := by
    cases c with
    | execute sql values => exact part_execute (w := (d, [])) hcoarse hends hclose sql values
    | askInsertId => exact part_askInsertId (w := (d, [])) hcoarse hends hclose
    | _ => cases hc
  exact fun entry hentry => Bool.eq_false_iff.mpr (List.countP_eq_zero.1 hcount entry hentry)

/-- Every call keeps to the discipline. -/
theorem disciplined (hdeclared : ∀ f ∈ d.failures, d.Declares f) (c : DriverCall) : Disciplined d c where
  inside hc hin := isEnd_of_mem_wire hc hin
  returned sql values hc hout hobtains hsucceeds := by
    subst hc
    obtain ⟨sql', values', hwire⟩ := wire_execute hdeclared hobtains
    rw [statementEnd_of_succeeds hdeclared hobtains hsucceeds hout] at hwire
    exact ⟨sql', values', hwire⟩
  statementFailed sql values hc hout hobtains hfailed := by
    subst hc
    obtain ⟨sql', values', hwire⟩ := wire_execute hdeclared hobtains
    rw [statementEnd_of_failed hout hfailed] at hwire
    exact ⟨sql', values', hwire⟩
  commitFailed sql values hc hout hobtains hcommit hfailed := by
    subst hc
    obtain ⟨sql', values', hwire⟩ := wire_execute hdeclared hobtains
    rw [statementEnd_of_commit_failed hout hcommit hfailed] at hwire
    exact ⟨sql', values', hwire⟩
  closed hobtains := by
    cases c with
    | execute sql values =>
        obtain ⟨sql', values', hwire⟩ := wire_execute hdeclared hobtains
        refine ⟨_, hwire, fun entry hentry => ?_⟩
        rcases List.mem_cons.1 hentry with rfl | hend
        · rfl
        · exact isCursorClose_of_mem_statementEnd hend
    | askInsertId => exact closed_askInsertId hobtains
    | _ => cases hobtains
  untouched hc hrefused := by
    cases c with
    | execute sql values => exact wire_execute_of_not_obtainsCursor hrefused
    | askInsertId => exact wire_askInsertId_of_not_obtainsCursor hrefused
    | _ => cases hc

/-! ### Histories -/

/-- Throughout a history every call keeps to the discipline, whichever of the calls of the connection fail with errors
that its module declares. -/
theorem history_disciplined (d : CursorDriver) (h : List (CallConduct × DriverCall))
    (hdeclared : ∀ m ∈ h, ∀ f ∈ m.1.failures, d.Declares f) : ∀ t ∈ history d h, Disciplined t.1 t.2 := by
  intro t ht
  have hkept := forall_history (P := fun d' => d'.catchesAll = d.catchesAll) (h := h) (fun _ _ hd => hd)
    (fun m _ d' hd => (catchesAll_left d' m.2).trans hd) rfl t ht
  obtain ⟨hscope, m, hm, -, -, hfailures⟩ := hkept
  refine disciplined (fun f hf => ?_) t.2
  unfold Declares
  rw [hscope]
  exact hdeclared m hm f (hfailures ▸ hf)

/-- An insertion whose commit fails, with a rollback that fails as well; then one in a transaction, and the question
after its identifier, where the savepoint is refused. -/
def strained : List (CallConduct × DriverCall) := [
  ({ replies := [{ rowCount := .int 1 }], commitFailure := some {}, rollbackFailure := some {} },
    .execute (.text "INSERT INTO t VALUES (1)") []),
  ({}, .begin),
  ({ replies := [{ rowCount := .int 1 }] }, .execute (.text "INSERT INTO t VALUES (2)") []),
  ({ replies := [{ failure := some {} }] }, .askInsertId),
  ({ commitFailure := some {} }, .commit)]

theorem history_disciplined_strained : (history fresh strained).length = 5 ∧
    (history fresh strained).Forall fun t => Disciplined t.1 t.2 :=
  ⟨rfl, List.forall_iff_forall_mem.2
    (history_disciplined fresh strained (by simp [strained, CallConduct.failures, Declares]))⟩

end CursorDriver

end SqlBuilder
