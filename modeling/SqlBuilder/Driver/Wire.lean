import SqlBuilder.Placeholder
import SqlBuilder.Fault

/-!
What passes between a driver and its database: the calls that a driver makes, and the results that it
makes of the answers. A driver is a state, and each of its operations a function that leaves the calls it
has made, in order, beside the new state.
-/

namespace SqlBuilder

/-- A row, by column. -/
abbrev Row := List (Value × Value)

/-- What the execution of a statement gives. -/
structure QueryResult where
  rows : List Row := []
  /-- Rows that were read, or changed where none were read. -/
  rowCount : Value := .int 0
  columns : List Value := []
  lastInsertId : Value := .null
  affectedRows : Value := .int 0
  deriving Inhabited

/-- The result as a value. -/
def QueryResult.toValue (r : QueryResult) : Value :=
  .result (r.rows.map Value.map) r.rowCount r.columns r.lastInsertId r.affectedRows

/-- A call that reaches the database, or a warning of the driver. -/
inductive WireEntry where
  | execute (sql : Value) (values : List Value)
  | begin
  | commit
  | rollback
  | close
  /-- A database file is opened. -/
  | connect (path : String)
  /-- A statement on a connection that takes question marks. -/
  | prepared (sql : Value) (values : List Value)
  /-- A statement on a cursor. -/
  | cursor (sql : Value) (values : Option Parameters)
  | cursorClose
  /-- A factory opens the connection of that name. -/
  | opened (name : String) (engine : Engine)
  | warn (text : String)

/-- An operation of a driver with the given kind of state. -/
abbrev Talk (σ : Type) := ExceptT Fault (StateM (σ × List WireEntry))

namespace Talk

variable {σ α : Type}

/-- The call is made. -/
def emit (entry : WireEntry) : Talk σ Unit := modify fun (s, entries) => (s, entries ++ [entry])

def state : Talk σ σ := do pure (← get).1

def update (f : σ → σ) : Talk σ Unit := modify fun (s, entries) => (f s, entries)

/-- The outcome of an operation, the state that it leaves, and the calls that it has made. -/
def run (op : Talk σ α) (s : σ) : Except Fault α × σ × List WireEntry :=
  let (outcome, s, entries) := (ExceptT.run op).run (s, [])
  (outcome, s, entries)

/-- The second operation follows whether the first one succeeds or not. -/
def andFinally (op : Talk σ α) (final : Talk σ Unit) : Talk σ α := do
  let outcome ← tryCatch (do pure (Except.ok (← op))) fun fault => pure (Except.error fault)
  final
  match outcome with
  | .ok x => pure x
  | .error fault => throw fault

end Talk

end SqlBuilder
