import SqlBuilder.Driver.Scripted
import SqlBuilder.Driver.Sqlite
import SqlBuilder.Driver.Cursor
import SqlBuilder.Query

/-!
The drivers that a connection can have, behind one set of operations.
-/

namespace SqlBuilder

inductive Driver where
  | scripted (driver : ScriptedDriver)
  | sqlite (driver : SqliteDriver)
  | cursor (driver : CursorDriver)

namespace Driver

variable {σ α : Type}

def engine : Driver → Engine
  | scripted d => d.engine
  | sqlite _ => .sqlite
  | cursor d => d.engine

/-- The driver believes that a transaction is open. -/
def inTransaction : Driver → Bool
  | scripted d => d.inTransaction
  | sqlite d => d.inTransaction
  | cursor d => d.inTransaction

/-- The database reads a backslash in a text literal as an escape. -/
def hasEscapes : Driver → Bool
  | cursor d => d.engine = .mysql
  | _ => false

/-- The connection below the driver is still there. -/
def requireOpen : Driver → Except Fault Unit
  | scripted _ => pure ()
  | sqlite d => (SqliteDriver.requireOpen.run d).1
  | cursor d => (CursorDriver.requireOpen.run d).1

/-- An operation of one kind of driver as one of all drivers. -/
def lift (wrap : σ → Driver) (s : σ) (op : Talk σ α) : Except Fault α × Driver × List WireEntry :=
  let (outcome, s, entries) := op.run s
  (outcome, wrap s, entries)

def execute (d : Driver) (sql : Value) (values : List Value) :
    Except Fault QueryResult × Driver × List WireEntry :=
  match d with
  | scripted d => lift scripted d (ScriptedDriver.execute sql values)
  | sqlite d => lift sqlite d (SqliteDriver.execute sql values)
  | cursor d => lift cursor d (CursorDriver.execute sql values)

def begin : Driver → Except Fault Unit × Driver × List WireEntry
  | scripted d => lift scripted d ScriptedDriver.begin
  | sqlite d => lift sqlite d SqliteDriver.begin
  | cursor d => lift cursor d CursorDriver.begin

def commit : Driver → Except Fault Unit × Driver × List WireEntry
  | scripted d => lift scripted d ScriptedDriver.commit
  | sqlite d => lift sqlite d SqliteDriver.commit
  | cursor d => lift cursor d CursorDriver.commit

def rollback : Driver → Except Fault Unit × Driver × List WireEntry
  | scripted d => lift scripted d ScriptedDriver.rollback
  | sqlite d => lift sqlite d SqliteDriver.rollback
  | cursor d => lift cursor d CursorDriver.rollback

def close : Driver → Except Fault Unit × Driver × List WireEntry
  | scripted d => lift scripted d ScriptedDriver.close
  | sqlite d => lift sqlite d SqliteDriver.close
  | cursor d => lift cursor d CursorDriver.close

/-- The identifier that the last insertion generated. -/
def lastInsertId : Driver → Except Fault Value × Driver × List WireEntry
  | scripted d => (.ok d.lastInsertId, scripted d, [])
  | sqlite d => (.ok d.lastInsertId, sqlite d, [])
  | cursor d => lift cursor d CursorDriver.askInsertId

end Driver

end SqlBuilder
