import SqlBuilder.Proofs.Driver.Flag

/-!
What becomes of a statement that the driver for SQLite executes: the answer of the database decides, and nothing is sent
but the statement.
-/

namespace SqlBuilder.SqliteDriver

open Talk

/-- What an answer tells about a statement. -/
def resultOf (reply : SqliteReply) : Except Fault QueryResult :=
  match reply.rowCount.isPositive? with
  | none => .error .typeMismatch
  | some isPositive =>
    let rows := if reply.columns.isEmpty then [] else reply.rows.map (rowOf reply.columns)
    let affected := if isPositive then reply.rowCount else .int 0
    .ok {
      rows
      rowCount := if reply.columns.isEmpty then affected else .int rows.length
      columns := reply.columns.map Value.text
      lastInsertId := if reply.lastRowId.isTruthy then reply.lastRowId else .null
      affectedRows := affected }

/-- The identifier of a result is the one that its cursor tells. -/
theorem lastInsertId_of_resultOf {reply : SqliteReply} {result : QueryResult} (h : resultOf reply = .ok result) :
    result.lastInsertId = if reply.lastRowId.isTruthy then reply.lastRowId else .null := by
  unfold resultOf at h
  split at h
  · cases h
  · cases h
    rfl

variable {d : SqliteDriver} {sql : Value} {values : List Value}

/-- A statement succeeds or fails as the database answers, and the driver remembers an identifier at most. -/
theorem exec_execute (hopen : d.isOpen = true) (sql : Value) (values : List Value) (entries : List WireEntry) :
    ∃ id, exec (execute sql values) (d, entries) = ((match d.reply.failure with
      | some f => .error f.toFault
      | none => resultOf d.reply), { d.sent sql with lastInsertId := id }, entries ++ [.prepared sql values]) := by
  unfold execute
  rw [guards_requireOpen.exec_checked, if_pos hopen, exec_bind, exec_send]
  cases d.reply.failure with
  | some f => exact ⟨_, rfl⟩
  | none =>
      unfold resultOf
      dsimp only
      cases d.reply.rowCount.isPositive? with
      | none => exact ⟨_, rfl⟩
      | some isPositive =>
          dsimp only
          split
          · exact ⟨_, rfl⟩
          · exact ⟨_, rfl⟩

theorem resultOf_of_execute {result : QueryResult} {w : SqliteDriver × List WireEntry}
    (h : exec (execute sql values) (d, []) = (.ok result, w)) : resultOf d.reply = .ok result := by
  have hopen : d.isOpen = true := guards_requireOpen.isOpen_of_ok h
  obtain ⟨d', hexecute⟩ := exec_execute hopen sql values []
  rw [h] at hexecute
  have houtcome := congrArg Prod.fst hexecute
  cases hfailure : d.reply.failure with
  | some f =>
      rw [hfailure] at houtcome
      cases houtcome
  | none =>
      rw [hfailure] at houtcome
      exact houtcome.symm

end SqlBuilder.SqliteDriver
