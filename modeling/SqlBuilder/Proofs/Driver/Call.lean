import SqlBuilder.Proofs.Driver.Flag

/-!
The calls of a driver as data. While the driver believes that a transaction is open, the calls that execute statements
commit nothing. A driver is sound if it believes so only while its connection is there; it is sound as soon as it has
begun a transaction, and stays so.
-/

namespace SqlBuilder

variable {α σ : Type}

/-- A call of a driver, with all its values. -/
inductive DriverCall where
  | begin
  | commit
  | rollback
  | close
  | execute (sql : Value) (values : List Value)
  | askInsertId

def TransactionStatus.call : TransactionStatus → DriverCall
  | committed => .commit
  | rolledBack => .rollback

namespace Driver

/-- The connection below the driver is still there. -/
def isOpen : Driver → Bool
  | scripted _ => true
  | sqlite d => d.isOpen
  | cursor d => d.isOpen

/-- No transaction is open without a connection. -/
def Sound (d : Driver) : Prop := d.inTransaction → d.isOpen

end Driver

namespace DriverCall

def silent (given : Except Fault α × Driver × List WireEntry) : Except Fault Unit × Driver × List WireEntry :=
  (given.1.map fun _ => (), given.2)

/-- What comes of the call: its outcome, the driver that it leaves, and what reaches the database. -/
def on (d : Driver) : DriverCall → Except Fault Unit × Driver × List WireEntry
  | begin => d.begin
  | commit => d.commit
  | rollback => d.rollback
  | close => d.close
  | execute sql values => silent (d.execute sql values)
  | askInsertId => silent d.lastInsertId

def after (c : DriverCall) (d : Driver) : Driver := (c.on d).2.1

def Succeeds (c : DriverCall) (d : Driver) : Prop := (c.on d).1 = .ok ()

/-- The call is part of the execution of a statement. -/
def IsStatement : DriverCall → Prop
  | execute _ _ => True
  | askInsertId => True
  | _ => False

variable {c : DriverCall} {d : Driver}

/-- Statements neither begin nor end a transaction, nor do they close the connection. -/
theorem after_statement (hc : c.IsStatement) :
    (c.after d).inTransaction = d.inTransaction ∧ (c.after d).isOpen = d.isOpen := by
  cases c with
  | execute sql values =>
      cases d with
      | scripted d => exact ⟨congrArg Prod.fst (ScriptedDriver.leaves_execute sql values (d, [])), rfl⟩
      | sqlite d =>
          have h := SqliteDriver.leaves_execute sql values (d, [])
          exact ⟨congrArg (fun marks => marks.2.1) h, congrArg Prod.fst h⟩
      | cursor d =>
          have h := CursorDriver.leaves_execute sql values (d, [])
          exact ⟨congrArg Prod.snd h, congrArg Prod.fst h⟩
  | askInsertId =>
      cases d with
      | scripted d => exact ⟨rfl, rfl⟩
      | sqlite d => exact ⟨rfl, rfl⟩
      | cursor d =>
          have h := CursorDriver.leaves_askInsertId (d, [])
          exact ⟨congrArg Prod.snd h, congrArg Prod.fst h⟩
  | _ => cases hc

/-- The driver stays one for its engine. -/
theorem engine_after_statement (hc : c.IsStatement) : (c.after d).engine = d.engine := by
  cases c with
  | execute sql values =>
      cases d with
      | scripted d => exact congrArg (fun marks => marks.2.2.2) (ScriptedDriver.leaves_execute sql values (d, []))
      | sqlite d => rfl
      | cursor d =>
          exact CursorDriver.part_execute CursorDriver.coarse_engine (fun _ =>
            ⟨CursorDriver.Call.leaves_signal_of _ fun _ _ => rfl, CursorDriver.Call.leaves_signal_of _ fun _ _ => rfl⟩)
            (CursorDriver.Call.leaves_signal_of _ fun _ _ => rfl) sql values
  | askInsertId =>
      cases d with
      | scripted d => rfl
      | sqlite d => rfl
      | cursor d =>
          exact CursorDriver.part_askInsertId CursorDriver.coarse_engine (fun _ =>
            ⟨CursorDriver.Call.leaves_signal_of _ fun _ _ => rfl, CursorDriver.Call.leaves_signal_of _ fun _ _ => rfl⟩)
            (CursorDriver.Call.leaves_signal_of _ fun _ _ => rfl)
  | _ => cases hc

/-- So does it when a transaction begins. -/
theorem engine_after_begin (d : Driver) : (begin.after d).engine = d.engine := by
  cases d with
  | scripted d =>
      have hmark : Talk.Leaves (fun w : ScriptedDriver × List WireEntry => w.1.engine) ScriptedDriver.begin := by
        refine .bind .state fun d => .bind (.emit _ fun _ _ => rfl) fun _ => ?_
        split
        · exact .throw_bind _ _
        · exact .update fun _ _ => rfl
      exact hmark (d, [])
  | sqlite d => rfl
  | cursor d =>
      have hbegin : Talk.Leaves (fun w : CursorDriver × List WireEntry => w.1.engine) CursorDriver.begin :=
        .bind CursorDriver.guards_requireOpen.leaves fun _ => .update fun _ _ => rfl
      exact hbegin (d, [])

/-- In a transaction no statement is committed by the driver itself. -/
theorem not_commit_mem_statement (hc : c.IsStatement) (hd : d.inTransaction = true) :
    WireEntry.commit ∉ (c.on d).2.2 := by
  cases c with
  | execute sql values =>
      cases d with
      | scripted d =>
          have h := ScriptedDriver.leaves_execute sql values (d, [])
          exact Talk.not_commit_mem (congrArg (fun marks => marks.2.2.1) h)
      | sqlite d =>
          have h := SqliteDriver.leaves_execute sql values (d, [])
          exact Talk.not_commit_mem (congrArg (fun marks => marks.2.2) h)
      | cursor d =>
          refine Talk.not_commit_mem (CursorDriver.part_execute CursorDriver.coarse_commits (fun hout => ?_)
            (CursorDriver.Call.leaves_signal_of _ (Talk.commits_append rfl)) sql values)
          exact absurd hd (Bool.eq_false_iff.mp hout)
  | askInsertId =>
      cases d with
      | scripted d => exact List.not_mem_nil
      | sqlite d => exact List.not_mem_nil
      | cursor d =>
          refine Talk.not_commit_mem (CursorDriver.part_askInsertId CursorDriver.coarse_commits (fun hout => ?_)
            (CursorDriver.Call.leaves_signal_of _ (Talk.commits_append rfl)))
          exact absurd hd (Bool.eq_false_iff.mp hout)
  | _ => cases hc

/-- An operation of a driver that succeeds. -/
theorem exec_of_ok {op : Talk σ Unit} {s : σ} (h : (op.run s).1 = .ok ()) :
    Talk.exec op (s, []) = (.ok (), (Talk.exec op (s, [])).2) := by
  rw [← h]
  rfl

/-- A transaction that begins sets the flag. -/
theorem after_begin (h : begin.Succeeds d) : (begin.after d).inTransaction = true := by
  cases d with
  | scripted d => exact ScriptedDriver.sets_begin _ _ _ (exec_of_ok h)
  | sqlite d => exact SqliteDriver.sets_begin _ _ _ (exec_of_ok h)
  | cursor d => exact CursorDriver.sets_begin _ _ _ (exec_of_ok h)

/-- The end of a transaction clears the flag. -/
theorem after_end (hd : d.Sound) (status : TransactionStatus) (h : status.call.Succeeds d) :
    (status.call.after d).inTransaction = false := by
  cases status with
  | committed =>
      cases d with
      | scripted d => exact ScriptedDriver.sets_commit _ _ _ (exec_of_ok h)
      | sqlite d => exact SqliteDriver.sets_commit _ _ _ (exec_of_ok h)
      | cursor d => exact CursorDriver.sets_commit _ _ _ (exec_of_ok h)
  | rolledBack =>
      cases d with
      | scripted d => exact ScriptedDriver.sets_rollback _ _ _ (exec_of_ok h)
      | sqlite d => exact SqliteDriver.rollback_ok (d, []) hd (exec_of_ok h)
      | cursor d => exact CursorDriver.rollback_clears (d, []) hd

/-- A driver that has begun a transaction is sound. -/
theorem sound_begin (h : begin.Succeeds d) : (begin.after d).Sound := by
  intro _
  cases d with
  | scripted d => rfl
  | sqlite d =>
      have hopen := SqliteDriver.guards_requireOpen.isOpen_of_ok (exec_of_ok h)
      exact (SqliteDriver.connected_begin.leaves (d, [])).trans hopen
  | cursor d =>
      have hopen := CursorDriver.guards_requireOpen.isOpen_of_ok (exec_of_ok h)
      exact (CursorDriver.connected_begin.leaves (d, [])).trans hopen

theorem sound_close (hd : d.Sound) : (close.after d).Sound := by
  intro hflag
  cases d with
  | scripted d => rfl
  | sqlite d =>
      have hclose : (Talk.exec SqliteDriver.close (d, [])).2 = _ := congrArg Prod.snd (SqliteDriver.exec_close (d, []))
      change (Talk.exec SqliteDriver.close (d, [])).2.1.inTransaction = true at hflag
      rw [hclose] at hflag
      by_cases hopen : d.isOpen = true
      · rw [if_pos hopen] at hflag
        cases hflag
      · rw [if_neg hopen] at hflag
        exact absurd (hd hflag) hopen
  | cursor d =>
      obtain hsame | hcleared := CursorDriver.exec_close_marks (d, [])
      · have hkept := hd ((congrArg Prod.snd hsame).symm.trans hflag)
        exact (congrArg Prod.fst hsame).trans hkept
      · have hclear : (close.after (.cursor d)).inTransaction = false := congrArg Prod.snd hcleared
        rw [hclear] at hflag
        cases hflag

/-- A sound driver stays so. -/
theorem sound_after (c : DriverCall) (hd : d.Sound) : (c.after d).Sound := by
  have hstatement : c.IsStatement → (c.after d).Sound := by
    intro hc
    obtain ⟨hflag, hopen⟩ := after_statement (d := d) hc
    unfold Driver.Sound
    rw [hflag, hopen]
    exact hd
  cases c with
  | begin =>
      cases d with
      | scripted d => exact fun _ => rfl
      | sqlite d => exact SqliteDriver.connected_begin.sound (·.inTransaction) (d, []) hd
      | cursor d => exact CursorDriver.connected_begin.sound (·.inTransaction) (d, []) hd
  | commit =>
      cases d with
      | scripted d => exact fun _ => rfl
      | sqlite d => exact SqliteDriver.connected_commit.sound (·.inTransaction) (d, []) hd
      | cursor d => exact CursorDriver.connected_commit.sound (·.inTransaction) (d, []) hd
  | rollback =>
      cases d with
      | scripted d => exact fun _ => rfl
      | sqlite d => exact SqliteDriver.connected_rollback.sound (·.inTransaction) (d, []) hd
      | cursor d => exact CursorDriver.connected_rollback.sound (·.inTransaction) (d, []) hd
  | close => exact sound_close hd
  | execute sql values => exact hstatement trivial
  | askInsertId => exact hstatement trivial

end DriverCall

end SqlBuilder
