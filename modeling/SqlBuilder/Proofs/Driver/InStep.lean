import SqlBuilder.Proofs.Driver.Call
import SqlBuilder.Proofs.Driver.SqliteRun

/-!
The two flags of the driver for SQLite. The connection knows itself whether it is in a transaction, and the driver keeps
a flag of its own beside that, which the controller of transactions goes by. The driver hands the text of a statement
over unread. Every call leaves the two flags equal, also one that fails, as long as no statement begins or ends a
transaction behind the back of the driver; and that need not be one of its own words, since the database has others.
-/

namespace SqlBuilder

/-- The words by which a connection begins and ends transactions. -/
def transactionWords : List Value := [.text "BEGIN", .text "COMMIT", .text "ROLLBACK"]

/-- The call neither closes the connection nor gives it the words of transactions as a statement. -/
def DriverCall.IsRegular : DriverCall → Prop
  | close => False
  | execute sql _ => sql ∉ transactionWords
  | _ => True

namespace SqliteDriver

open Talk

variable {α : Type} {d : SqliteDriver} {c : DriverCall}

/-- The statement would leave the transaction of the connection as it is. -/
def Spares (d : SqliteDriver) (sql : Value) : Prop := (d.sent sql).connectionBusy = d.connectionBusy

/-! ### Calls -/

def perform : DriverCall → Talk SqliteDriver Unit
  | .begin => begin
  | .commit => commit
  | .rollback => rollback
  | .close => close
  | .execute sql values => do let _ ← execute sql values
  | .askInsertId => pure ()

theorem on_sqlite (c : DriverCall) (d : SqliteDriver) : c.on (.sqlite d) = Driver.lift .sqlite d (perform c) := by
  cases c with
  | execute sql values =>
      change (((exec (execute sql values) (d, [])).1.map fun _ => ()),
          Driver.sqlite (exec (execute sql values) (d, [])).2.1, (exec (execute sql values) (d, [])).2.2) =
        ((exec (execute sql values >>= fun _ => pure ()) (d, [])).1,
          Driver.sqlite (exec (execute sql values >>= fun _ => pure ()) (d, [])).2.1,
          (exec (execute sql values >>= fun _ => pure ()) (d, [])).2.2)
      rw [exec_bind]
      rcases exec (execute sql values) (d, []) with ⟨e | x, w'⟩
      · rfl
      · rfl
  | _ => rfl

def left (d : SqliteDriver) (c : DriverCall) : SqliteDriver := ((perform c).run d).2.1

/-- Whether the connection is in a transaction behind a call, by its outcome. -/
def movedTo (busy : Bool) : DriverCall → Except Fault Unit → Bool
  | .begin, .ok _ => true
  | .commit, .ok _ => false
  | .rollback, .ok _ => false
  | _, _ => busy

/-- The call moves the connection as its outcome tells, and the flag of the driver with it. A rollback is sent only
where there is a transaction. -/
structure Steps (d : SqliteDriver) (c : DriverCall) : Prop where
  inStep : (d.left c).inTransaction = (d.left c).connectionBusy
  moves : (d.left c).connectionBusy = movedTo d.connectionBusy c (c.on (.sqlite d)).1
  rollback : c = .rollback →
    (d.inTransaction = false → c.on (.sqlite d) = (.ok (), .sqlite d, [])) ∧
    (d.inTransaction = true → (c.on (.sqlite d)).2.2 = [.prepared (.text "ROLLBACK") []])

theorem steps_of_run {outcome : Except Fault Unit} {d' : SqliteDriver} {entries : List WireEntry}
    (h : (perform c).run d = (outcome, d', entries)) (hstep : d'.inTransaction = d'.connectionBusy)
    (hmoves : d'.connectionBusy = movedTo d.connectionBusy c outcome)
    (hrollback : c = .rollback → (d.inTransaction = false → outcome = .ok () ∧ d' = d ∧ entries = []) ∧
      (d.inTransaction = true → entries = [.prepared (.text "ROLLBACK") []])) : Steps d c := by
  have hon : c.on (.sqlite d) = (outcome, .sqlite d', entries) := by
    rw [on_sqlite, Driver.lift, h]
  have hleft : d.left c = d' := by rw [left, h]
  refine ⟨hleft ▸ hstep, ?_, fun hc => ⟨fun hout => ?_, fun hin => ?_⟩⟩
  · rw [hleft, hon]
    exact hmoves
  · obtain ⟨rfl, rfl, rfl⟩ := (hrollback hc).1 hout
    exact hon
  · rw [hon]
    exact (hrollback hc).2 hin

/-- The statement that the call sends, other than a word of the driver that succeeds, leaves the transaction of the
connection as it is. The connection is not closed. -/
def IsSteady (d : SqliteDriver) : DriverCall → Prop
  | .begin => d.reply.failure.isSome → d.Spares (.text "BEGIN")
  | .commit => d.reply.failure.isSome → d.Spares (.text "COMMIT")
  | .rollback => d.connectionBusy → d.reply.failure.isSome → d.Spares (.text "ROLLBACK")
  | .close => False
  | .execute sql _ => d.Spares sql
  | .askInsertId => True

instance (d : SqliteDriver) (sql : Value) : Decidable (d.Spares sql) :=
  inferInstanceAs (Decidable ((d.sent sql).connectionBusy = d.connectionBusy))

instance (d : SqliteDriver) : (c : DriverCall) → Decidable (d.IsSteady c)
  | .begin => inferInstanceAs (Decidable (d.reply.failure.isSome → d.Spares (.text "BEGIN")))
  | .commit => inferInstanceAs (Decidable (d.reply.failure.isSome → d.Spares (.text "COMMIT")))
  | .rollback =>
    inferInstanceAs (Decidable (d.connectionBusy → d.reply.failure.isSome → d.Spares (.text "ROLLBACK")))
  | .close => isFalse not_false
  | .execute sql _ => inferInstanceAs (Decidable (d.Spares sql))
  | .askInsertId => isTrue trivial

theorem ne_close_of_isSteady (hc : d.IsSteady c) : c ≠ .close := by
  rintro rfl
  exact hc

theorem isOpen_left (hc : c ≠ .close) : (d.left c).isOpen = d.isOpen := by
  cases c with
  | begin => exact connected_begin.leaves (d, [])
  | commit => exact connected_commit.leaves (d, [])
  | rollback => exact connected_rollback.leaves (d, [])
  | close => exact absurd rfl hc
  | execute sql values =>
      exact congrArg Prod.fst (Leaves.bind (leaves_execute sql values) (fun _ => .pure ()) (d, []))
  | askInsertId => rfl

section Open

variable (hopen : d.isOpen = true)

include hopen

theorem run_begin : begin.run d = match d.reply.failure with
    | some f => (.error f.toFault, d.sent (.text "BEGIN"), [.prepared (.text "BEGIN") []])
    | none => (.ok (), { d.sent (.text "BEGIN") with inTransaction := true }, [.prepared (.text "BEGIN") []]) := by
  change exec begin (d, []) = _
  unfold begin
  rw [guards_requireOpen.exec_checked, if_pos hopen, exec_bind, exec_send]
  cases d.reply.failure with
  | some f => rfl
  | none => rfl

/-- Whatever comes of a commit, the flag is the one of the connection. -/
theorem run_commit : commit.run d = ((match d.reply.failure with
      | some f => .error f.toFault
      | none => .ok ()),
    { d.sent (.text "COMMIT") with inTransaction := (d.sent (.text "COMMIT")).connectionBusy },
    [.prepared (.text "COMMIT") []]) := by
  change exec commit (d, []) = _
  unfold commit
  rw [guards_requireOpen.exec_checked, if_pos hopen, exec_andFinally_update, exec_bind, exec_send]
  cases d.reply.failure with
  | some f => rfl
  | none => rfl

theorem run_rollback : rollback.run d =
    if d.connectionBusy then match d.reply.failure with
      | some f => (.error f.toFault, d.sent (.text "ROLLBACK"), [.prepared (.text "ROLLBACK") []])
      | none => (.ok (), { d.sent (.text "ROLLBACK") with inTransaction := false },
        [.prepared (.text "ROLLBACK") []])
    else (.ok (), { d with inTransaction := false }, []) := by
  change exec rollback (d, []) = _
  rw [exec_rollback, if_pos hopen]
  by_cases hbusy : d.connectionBusy = true
  · rw [if_pos hbusy, if_pos hbusy, exec_bind, exec_send]
    cases d.reply.failure with
    | some f => rfl
    | none => rfl
  · rw [if_neg hbusy, if_neg hbusy]
    rfl

/-- Behind a statement the driver has at most another identifier than behind its text alone. -/
theorem left_execute (sql : Value) (values : List Value) :
    ∃ id, d.left (.execute sql values) = { d.sent sql with lastInsertId := id } := by
  obtain ⟨id, hexecute⟩ := exec_execute hopen sql values []
  refine ⟨id, ?_⟩
  change (exec (execute sql values >>= fun _ => pure ()) (d, [])).2.1 = _
  rw [exec_bind, hexecute]
  cases d.reply.failure with
  | some f => rfl
  | none =>
      cases resultOf d.reply with
      | error e => rfl
      | ok result => rfl

/-- A call that leaves the transaction to the words of the driver keeps the flags equal. -/
theorem steps (hstep : d.inTransaction = d.connectionBusy) (hc : d.IsSteady c) : Steps d c := by
  cases c with
  | begin =>
      have hrun := run_begin hopen
      cases hfailure : d.reply.failure with
      | some f =>
          rw [hfailure] at hrun
          have hspares : d.Spares (.text "BEGIN") := hc (by rw [hfailure]; rfl)
          exact steps_of_run hrun (hstep.trans hspares.symm) hspares nofun
      | none =>
          rw [hfailure] at hrun
          have hbusy : (d.sent (.text "BEGIN")).connectionBusy = true := SqliteReply.busyBehind_begin hfailure _
          exact steps_of_run hrun hbusy.symm hbusy nofun
  | commit =>
      have hrun := run_commit hopen
      cases hfailure : d.reply.failure with
      | some f =>
          rw [hfailure] at hrun
          exact steps_of_run hrun rfl (hc (by rw [hfailure]; rfl)) nofun
      | none =>
          rw [hfailure] at hrun
          exact steps_of_run hrun rfl (SqliteReply.busyBehind_end (.inl rfl) hfailure _) nofun
  | rollback =>
      have hrun := run_rollback hopen
      by_cases hbusy : d.connectionBusy = true
      · have hin : d.inTransaction = true := hstep.trans hbusy
        have hsent : d.inTransaction = false → False := fun hout => absurd (hin.symm.trans hout) (by decide)
        rw [if_pos hbusy] at hrun
        cases hfailure : d.reply.failure with
        | some f =>
            rw [hfailure] at hrun
            have hspares : d.Spares (.text "ROLLBACK") := hc hbusy (by rw [hfailure]; rfl)
            exact steps_of_run hrun (hstep.trans hspares.symm) hspares fun _ =>
              ⟨fun hout => (hsent hout).elim, fun _ => rfl⟩
        | none =>
            rw [hfailure] at hrun
            have hidle : (d.sent (.text "ROLLBACK")).connectionBusy = false :=
              SqliteReply.busyBehind_end (.inr rfl) hfailure _
            exact steps_of_run hrun hidle.symm hidle fun _ => ⟨fun hout => (hsent hout).elim, fun _ => rfl⟩
      · have hidle : d.connectionBusy = false := Bool.eq_false_iff.2 hbusy
        have hout : d.inTransaction = false := hstep.trans hidle
        rw [if_neg hbusy] at hrun
        refine steps_of_run hrun hidle.symm hidle fun _ => ⟨fun _ => ⟨rfl, ?_, rfl⟩, fun hin => ?_⟩
        · rw [← hout]
        · rw [hout] at hin
          cases hin
  | close => exact hc.elim
  | execute sql values =>
      obtain ⟨id, hleft⟩ := left_execute hopen sql values
      have hspares : (d.left (.execute sql values)).connectionBusy = d.connectionBusy := by
        rw [hleft]
        exact hc
      have hflag : (d.left (.execute sql values)).inTransaction = d.inTransaction := by rw [hleft]; rfl
      exact steps_of_run rfl (hflag.trans (hstep.trans hspares.symm)) hspares nofun
  | askInsertId => exact steps_of_run rfl hstep rfl nofun

/-- Any other call leaves the flags apart, but for a commit, which takes the flag over from the connection. -/
theorem inStep_left_iff (hstep : d.inTransaction = d.connectionBusy) (hc : c ≠ .close) :
    (d.left c).inTransaction = (d.left c).connectionBusy ↔ c = .commit ∨ d.IsSteady c := by
  constructor
  · intro h
    cases c with
    | begin =>
        refine .inr fun hfails => ?_
        obtain ⟨f, hfailure⟩ := Option.isSome_iff_exists.1 hfails
        have hleft : d.left .begin = d.sent (.text "BEGIN") := by
          change (begin.run d).2.1 = _
          rw [run_begin hopen, hfailure]
        rw [hleft] at h
        exact h.symm.trans hstep
    | commit => exact .inl rfl
    | rollback =>
        refine .inr fun hbusy hfails => ?_
        obtain ⟨f, hfailure⟩ := Option.isSome_iff_exists.1 hfails
        have hleft : d.left .rollback = d.sent (.text "ROLLBACK") := by
          change (rollback.run d).2.1 = _
          rw [run_rollback hopen, if_pos hbusy, hfailure]
        rw [hleft] at h
        exact h.symm.trans hstep
    | close => exact absurd rfl hc
    | execute sql values =>
        obtain ⟨id, hleft⟩ := left_execute hopen sql values
        rw [hleft] at h
        exact .inr (h.symm.trans hstep)
    | askInsertId => exact .inr trivial
  · rintro (rfl | hsteady)
    · change (commit.run d).2.1.inTransaction = (commit.run d).2.1.connectionBusy
      rw [run_commit hopen]
    · exact (steps hopen hstep hsteady).inStep

end Open

/-! ### Histories -/

/-- The calls of a history, each with the driver that it is made on. -/
def history : SqliteDriver → List DriverCall → List (SqliteDriver × DriverCall)
  | _, [] => []
  | d, c :: rest => (d, c) :: history (d.left c) rest

def leftBehind (d : SqliteDriver) (calls : List DriverCall) : SqliteDriver := calls.foldl left d

/-- Throughout a history the flag of the driver is the one of the connection, whichever statements fail, as long as the
statements other than the words of the driver leave the transaction of the connection as it is. The first call that does
otherwise puts the two out of step. -/
theorem history_steps (hopen : d.isOpen = true) (hstep : d.inTransaction = d.connectionBusy) (calls : List DriverCall)
    (hcalls : ∀ t ∈ history d calls, t.1.IsSteady t.2) :
    (∀ t ∈ history d calls, Steps t.1 t.2) ∧
    ∀ c, c ≠ .close → (((d.leftBehind calls).left c).inTransaction = ((d.leftBehind calls).left c).connectionBusy ↔
      c = .commit ∨ (d.leftBehind calls).IsSteady c) := by
  induction calls generalizing d with
  | nil => exact ⟨fun t ht => absurd ht List.not_mem_nil, fun c hc => inStep_left_iff hopen hstep hc⟩
  | cons c calls ih =>
      have hsteady : d.IsSteady c := hcalls (d, c) List.mem_cons_self
      have hsteps := steps hopen hstep hsteady
      obtain ⟨hrest, hnext⟩ := ih ((isOpen_left (ne_close_of_isSteady hsteady)).trans hopen) hsteps.inStep
        fun t ht => hcalls t (List.mem_cons_of_mem _ ht)
      refine ⟨fun t ht => ?_, hnext⟩
      rcases List.mem_cons.1 ht with rfl | ht
      · exact hsteps
      · exact hrest t ht

/-- A connection to a database that is locked at first, and again when a transaction is to end. -/
def locked : SqliteDriver :=
  let refusal : SqliteReply := { failure := some { message := "database is locked", code := some 5 } }
  { replies := [refusal, {}, { rowCount := .int 1 }, refusal, refusal, {}, { turnsTo := some true }] }

/-- A transaction that is begun at the second attempt, and is neither committed nor rolled back at the first. -/
def attempts : List DriverCall := [.begin, .rollback, .begin, .execute (.text "DELETE FROM t") [], .commit, .rollback,
  .rollback, .rollback]

theorem history_steps_locked :
    (history locked attempts).map (fun t => (t.1.inTransaction, (t.2.on (.sqlite t.1)).2.2.length)) =
      [(false, 1), (false, 0), (false, 1), (true, 1), (true, 1), (true, 1), (true, 1), (false, 0)] ∧
    (∀ t ∈ history locked attempts, Steps t.1 t.2) ∧
    ((locked.leftBehind attempts).left (.execute (.text "SAVEPOINT s") [])).inTransaction ≠
      ((locked.leftBehind attempts).left (.execute (.text "SAVEPOINT s") [])).connectionBusy := by
  obtain ⟨hsteps, hnext⟩ := history_steps (d := locked) rfl rfl attempts (by decide)
  refine ⟨rfl, hsteps, fun h => ?_⟩
  rcases (hnext (.execute (.text "SAVEPOINT s") []) nofun).1 h with hcommit | hsteady
  · cases hcommit
  · exact absurd hsteady (by decide)

/-- The words of the driver are not the only ones that begin a transaction of the connection. -/
theorem not_history_steps : ¬ ∀ (d : SqliteDriver) (calls : List DriverCall), d.isOpen = true →
    d.inTransaction = false → d.connectionBusy = false →
    (∀ reply ∈ d.replies, reply.failure.isSome → reply.turnsTo = none) → (∀ c ∈ calls, c.IsRegular) →
    ∀ t ∈ history d calls, (t.1.left t.2).inTransaction = (t.1.left t.2).connectionBusy := by
  intro h
  have hflags := h { replies := [{ turnsTo := some true }] } [.execute (.text "BEGIN IMMEDIATE") []] rfl rfl rfl
    (by simp) (by simp [DriverCall.IsRegular, transactionWords]) _ List.mem_cons_self
  exact absurd hflags (by decide)

end SqliteDriver

end SqlBuilder
