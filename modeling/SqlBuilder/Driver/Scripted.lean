import SqlBuilder.Driver.Wire
import SqlBuilder.Text.Strip

/-!
A driver whose answers are fixed in advance, one for each statement. It counts the rows that are
inserted and gives out identifiers as a database would.
-/

namespace SqlBuilder

/-- An answer that is fixed in advance. -/
structure ScriptedReply where
  failure : Option DriverFault := none
  rows : Option (List Row) := none
  affected : Value := .int 1
  insertId : Option Value := none

structure ScriptedDriver where
  engine : Engine
  replies : List ScriptedReply
  beginFailure : Option DriverFault
  commitFailure : Option DriverFault
  rollbackFailure : Option DriverFault
  inserted : Int := 0
  lastInsertId : Value := .null
  inTransaction : Bool := false

namespace ScriptedDriver

/-- The next answer; one that says nothing when all are used up, and that is marked. -/
def nextReply : Talk ScriptedDriver (ScriptedReply × Bool) := do
  let d ← Talk.state
  match d.replies with
  | [] => pure (⟨none, none, .int 1, none⟩, true)
  | reply :: rest =>
    Talk.update fun d => { d with replies := rest }
    pure (reply, false)

/-- The SQL begins with one of the words. It must be a text. -/
def startsWith (sql : Value) (words : List String) : Except Fault Bool :=
  match sql with
  | .text s => pure (words.any fun word => Text.startsWith s word)
  | _ => throw .missingMember

def execute (sql : Value) (values : List Value) : Talk ScriptedDriver QueryResult := do
  Talk.emit (.execute sql values)
  let (reply, isUsedUp) ← nextReply
  if let some failure := reply.failure then throw (.driver failure)
  if let some rows := reply.rows then
    return { rows, rowCount := .int rows.length, columns := (rows.head?.getD []).map (·.1) }
  if isUsedUp && (← startsWith sql ["SELECT", "("]) then return {}
  if (← startsWith sql ["INSERT", "REPLACE"]) && reply.affected.same (.int 1) then
    Talk.update fun d =>
      { d with
        inserted := d.inserted + 1
        lastInsertId := reply.insertId.getD (.int (d.inserted + 1)) }
  return { rowCount := reply.affected, affectedRows := reply.affected }

/-- A call that fails every time if a failure is given, and sets the flag otherwise. -/
def mark (entry : WireEntry) (failure : Option DriverFault) (flag : Bool) : Talk ScriptedDriver Unit := do
  Talk.emit entry
  if let some failure := failure then throw (.driver failure)
  Talk.update fun d => { d with inTransaction := flag }

def begin : Talk ScriptedDriver Unit := do mark .begin (← Talk.state).beginFailure true

def commit : Talk ScriptedDriver Unit := do mark .commit (← Talk.state).commitFailure false

def rollback : Talk ScriptedDriver Unit := do mark .rollback (← Talk.state).rollbackFailure false

def close : Talk ScriptedDriver Unit := Talk.emit .close

end ScriptedDriver

end SqlBuilder
