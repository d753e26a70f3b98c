import SqlBuilder.Proofs.Driver.CursorRun

/-!
Histories of calls on a driver for connections with cursors. What the connection does is given anew for every call, so
that each of its calls may fail at any time. What every call keeps holds throughout a history.
-/

namespace SqlBuilder

/-- What a connection does during a call of the driver above it. -/
structure CallConduct where
  replies : List CursorReply := []
  commitFailure : Option ModuleFailure := none
  rollbackFailure : Option ModuleFailure := none
  cursorFailure : Option ModuleFailure := none
  cursorCloseFailure : Option ModuleFailure := none

def CallConduct.failures (o : CallConduct) : List ModuleFailure :=
  o.replies.filterMap (·.failure) ++ o.commitFailure.toList ++ o.rollbackFailure.toList ++ o.cursorFailure.toList ++
    o.cursorCloseFailure.toList

namespace CursorDriver

open Talk

/-- The driver above a connection that is about to do that. -/
def facing (d : CursorDriver) (o : CallConduct) : CursorDriver :=
  { d with
    replies := o.replies
    commitFailure := o.commitFailure
    rollbackFailure := o.rollbackFailure
    cursorFailure := o.cursorFailure
    cursorCloseFailure := o.cursorCloseFailure }

def perform : DriverCall → Talk CursorDriver Unit
  | .begin => begin
  | .commit => commit
  | .rollback => rollback
  | .close => close
  | .execute sql values => do let _ ← execute sql values
  | .askInsertId => do let _ ← askInsertId

def left (d : CursorDriver) (c : DriverCall) : CursorDriver := ((perform c).run d).2.1

/-- A call of the driver is one of its operations. -/
theorem on_cursor (c : DriverCall) (d : CursorDriver) : c.on (.cursor d) = Driver.lift .cursor d (perform c) := by
  have hsilent : ∀ {α : Type} (op : Talk CursorDriver α), DriverCall.silent (Driver.lift .cursor d op) =
      Driver.lift .cursor d (do let _ ← op) := by
    intro α op
    change (((exec op (d, [])).1.map fun _ => ()), Driver.cursor (exec op (d, [])).2.1, (exec op (d, [])).2.2) =
      ((exec (op >>= fun _ => pure ()) (d, [])).1, Driver.cursor (exec (op >>= fun _ => pure ()) (d, [])).2.1,
        (exec (op >>= fun _ => pure ()) (d, [])).2.2)
    rw [exec_bind]
    rcases exec op (d, []) with ⟨e | x, w'⟩
    · rfl
    · rfl
  cases c with
  | execute sql values => exact hsilent _
  | askInsertId => exact hsilent _
  | _ => rfl

/-- The calls of a history, each with the driver that it is made on. -/
def history : CursorDriver → List (CallConduct × DriverCall) → List (CursorDriver × DriverCall)
  | _, [] => []
  | d, (o, c) :: rest => (d.facing o, c) :: history ((d.facing o).left c) rest

/-- What every call keeps holds of the driver at every call of a history, which meets the failures given for it. -/
theorem forall_history {P : CursorDriver → Prop} (hfacing : ∀ d o, P d → P (d.facing o)) {d : CursorDriver}
    {h : List (CallConduct × DriverCall)} (hleft : ∀ m ∈ h, ∀ d, P d → P (d.left m.2)) (hd : P d) :
    ∀ t ∈ history d h, P t.1 ∧ ∃ m ∈ h, t.2 = m.2 ∧ t.1.replies = m.1.replies ∧ t.1.failures = m.1.failures := by
  induction h generalizing d with
  | nil => exact fun t ht => absurd ht List.not_mem_nil
  | cons m h ih =>
      intro t ht
      have hnow := hfacing d m.1 hd
      rcases List.mem_cons.1 ht with rfl | ht
      · exact ⟨hnow, m, List.mem_cons_self, rfl, rfl, rfl⟩
      · obtain ⟨hP, m', hm', hmatch⟩ := ih (fun m' hm' => hleft m' (List.mem_cons_of_mem m hm'))
          (hleft m List.mem_cons_self _ hnow) t ht
        exact ⟨hP, m', List.mem_cons_of_mem m hm', hmatch⟩

/-- A connection of PostgreSQL, to which the driver has just been given. -/
def fresh : CursorDriver where
  engine := .postgresql
  style := .qmark
  catchesAll := false
  replies := []
  commitFailure := none
  rollbackFailure := none
  closeFailure := none

/-! ### What calls keep -/

/-- Whether the module declares no errors. -/
abbrev scope (w : CursorDriver × List WireEntry) : Bool := w.1.catchesAll

theorem leaves_scope_signal (entry : WireEntry) (failure : CursorDriver → Option ModuleFailure) :
    Leaves scope (Call.signal entry failure) := Call.leaves_signal_of failure fun _ _ => rfl

theorem leaves_scope_finish {call : Call Unit} (h : Leaves scope call) : Leaves scope (finish call) :=
  .andFinally (Call.leaves_handled h leaves_report) (.update fun _ _ => rfl)

/-- No call changes what the module declares. -/
theorem leaves_scope_perform (c : DriverCall) : Leaves scope (perform c) := by
  cases c with
  | begin => exact .bind guards_requireOpen.leaves fun _ => .update fun _ _ => rfl
  | commit => exact .bind guards_requireOpen.leaves fun _ => leaves_scope_finish (leaves_scope_signal _ _)
  | rollback =>
      refine .bind .state fun d => ?_
      split
      · exact leaves_scope_finish (leaves_scope_signal _ _)
      · exact .pure _
  | close =>
      refine .bind .state fun d => ?_
      split
      · exact .bind (Call.leaves_bare (leaves_scope_signal _ _)) fun _ => .update fun _ _ => rfl
      · exact .pure _
  | execute sql values =>
      refine .bind (fun w => ?_) fun _ => .pure _
      exact part_execute coarse_catchesAll (fun _ => ⟨leaves_scope_signal _ _, leaves_scope_signal _ _⟩)
        (leaves_scope_signal _ _) sql values
  | askInsertId =>
      refine .bind (fun w => ?_) fun _ => .pure _
      exact part_askInsertId coarse_catchesAll (fun _ => ⟨leaves_scope_signal _ _, leaves_scope_signal _ _⟩)
        (leaves_scope_signal _ _)

theorem catchesAll_left (d : CursorDriver) (c : DriverCall) : (d.left c).catchesAll = d.catchesAll :=
  leaves_scope_perform c (d, [])

/-- A connection stays open until it is closed. -/
theorem isOpen_left (d : CursorDriver) {c : DriverCall} (hc : c ≠ .close) : (d.left c).isOpen = d.isOpen := by
  have hafter : (c.after (.cursor d)).isOpen = (d.left c).isOpen := by
    unfold DriverCall.after
    rw [on_cursor]
    rfl
  rw [← hafter]
  cases c with
  | begin => exact connected_begin.leaves (d, [])
  | commit => exact connected_commit.leaves (d, [])
  | rollback => exact connected_rollback.leaves (d, [])
  | close => exact absurd rfl hc
  | execute sql values => exact (DriverCall.after_statement (c := .execute sql values) trivial).2
  | askInsertId => exact (DriverCall.after_statement (c := .askInsertId) trivial).2

end CursorDriver

end SqlBuilder
