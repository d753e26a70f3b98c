import SqlBuilder.Driver.Wire
import SqlBuilder.Text.Strip
import SqlBuilder.Text.Case

/-!
The driver for any database module with connections and cursors. Placeholders are written in the style
of the module. Outside a transaction every statement is followed by a commit, or by a rollback if it
fails. A generated identifier comes with the cursor or, for engines whose cursors have none, is read
back when it is asked for.
-/

namespace SqlBuilder

/-- A failure that the database module raises. -/
structure ModuleFailure where
  className : String := "Error"
  details : List Value := []
  sqlState : Value := .null
  altState : Value := .null
  /-- It is none of the errors that the module declares. -/
  isForeign : Bool := false

namespace ModuleFailure

/-- The text of the failure: its only detail, or all of them as a tuple. -/
def text (f : ModuleFailure) : Except Fault String :=
  match f.details with
  | [] => pure ""
  | [detail] => detail.written
  | details => pure (Value.tuple details).shown

/-- The state that the failure carries under either name. -/
def declaredState (f : ModuleFailure) : Value := if f.sqlState.isTruthy then f.sqlState else f.altState

/-- The state without any other sign. -/
def defaultState (f : ModuleFailure) : Value :=
  .text (if f.className = "IntegrityError" then "23000" else "HY000")

/-- The report in the terms of a driver. A number in front of the details is the code, and a text of five
characters there is the state, if none is declared; the detail behind either is the message. Without
a number the state is the code. -/
def toDriverFault (f : ModuleFailure) : Except Fault DriverFault := do
  let report (state code : Value) (message : String) : DriverFault :=
    let state := if state.isNull then f.defaultState else state
    ⟨state, if code.isNull then state else code, .text message⟩
  let own ← f.text
  match f.details with
  | [] => pure (report f.declaredState .null own)
  | detail :: rest =>
    if detail.asInt?.isSome then
      match rest with
      | [] => pure (report f.declaredState detail own)
      | message :: _ => pure (report f.declaredState detail (← message.written))
    else match detail, rest with
      | .text s, message :: _ =>
        if f.declaredState.isNull && s.length = 5 then pure (report detail .null (← message.written))
        else pure (report f.declaredState .null own)
      | _, _ => pure (report f.declaredState .null own)

end ModuleFailure

/-- An answer of a cursor. -/
structure CursorReply where
  failure : Option ModuleFailure := none
  columns : List String := []
  rows : List (List Value) := []
  /-- The number of rows that were changed. A number below zero tells nothing, and neither does an absent
  one. -/
  rowCount : Value := .int (-1)
  lastRowId : Value := .null

structure CursorDriver where
  engine : Engine
  style : PlaceholderStyle
  /-- The module declares no class of errors, so every failure counts as one. -/
  catchesAll : Bool
  replies : List CursorReply
  commitFailure : Option ModuleFailure
  rollbackFailure : Option ModuleFailure
  closeFailure : Option ModuleFailure
  /-- The connection has no cursor to give. -/
  cursorFailure : Option ModuleFailure := none
  cursorCloseFailure : Option ModuleFailure := none
  isOpen : Bool := true
  inTransaction : Bool := false
  lastInsertId : Value := .null
  /-- The last statement may have generated an identifier that the cursor has not told. -/
  identityPending : Bool := false

namespace CursorDriver

/-- A call of the connection below. What it raises is not yet in the terms of drivers. -/
abbrev Call (α : Type) := ExceptT ModuleFailure (StateM (CursorDriver × List WireEntry)) α

namespace Call

variable {α : Type}

def emit (entry : WireEntry) : Call Unit := modify fun (s, entries) => (s, entries ++ [entry])

/-- The connection is told to commit, to roll back or to close. -/
def signal (entry : WireEntry) (failure : CursorDriver → Option ModuleFailure) : Call Unit := do
  emit entry
  if let some failure := failure (← get).1 then throw failure

def commit : Call Unit := signal .commit (·.commitFailure)

def rollback : Call Unit := signal .rollback (·.rollbackFailure)

def close : Call Unit := signal .close (·.closeFailure)

/-- The connection is asked for a cursor, which leaves no entry. -/
def openCursor : Call Unit := do
  if let some failure := (← get).1.cursorFailure then throw failure

def closeCursor : Call Unit := signal .cursorClose (·.cursorCloseFailure)

/-- The cursor executes a statement. -/
def execute (sql : Value) (values : Option Parameters) : Call CursorReply := do
  emit (.cursor sql values)
  let reply := (← get).1.replies.head?.getD {}
  modify fun (d, entries) => ({ d with replies := d.replies.tail }, entries)
  if let some failure := reply.failure then throw failure
  pure reply

/-- The call as an operation of the driver that lets a failure through as it is. -/
def bare (call : Call α) : Talk CursorDriver α := do
  match ← (ExceptT.run call : StateM _ _) with
  | .ok x => pure x
  | .error failure => throw (.foreign failure.className)

/-- The call with a handler for the failures that the module declares. -/
def handled (call : Call α) (handler : ModuleFailure → Talk CursorDriver α) : Talk CursorDriver α := do
  match ← (ExceptT.run call : StateM _ _) with
  | .ok x => pure x
  | .error failure =>
    if failure.isForeign && !(← Talk.state).catchesAll then throw (.foreign failure.className)
    else handler failure

end Call

def requireOpen : Talk CursorDriver Unit := do
  unless (← Talk.state).isOpen do throw (.closed "Connection is closed.")

/-- The engines whose identifiers are read back, with the statement for it. -/
def identityQuery? : Engine → Option String
  | .postgresql => some "SELECT lastval()"
  | .sqlserver => some "SELECT @@IDENTITY"
  | _ => none

/-- The statement adds rows, by its first word. It must be a text. -/
def addsRows (sql : Value) : Except Fault Bool :=
  match sql with
  | .text s =>
    let text := Text.upper (Text.stripLeft s)
    pure (Text.startsWith text "INSERT" || Text.startsWith text "REPLACE")
  | _ => throw .missingMember

/-- What the cursor tells about a statement. -/
def resultOf (reply : CursorReply) : Except Fault QueryResult := do
  let rows := if reply.columns.isEmpty then [] else reply.rows.map fun cells =>
    Value.entriesOf ((reply.columns.map Value.text).zip cells)
  let count := if reply.rowCount.isTruthy then reply.rowCount else .int 0
  let some isPositive := count.isPositive? | throw .typeMismatch
  let affected := if isPositive then count else .int 0
  pure {
    rows
    rowCount := if reply.columns.isEmpty then affected else .int rows.length
    columns := reply.columns.map Value.text
    lastInsertId := if reply.lastRowId.isTruthy then reply.lastRowId else .null
    affectedRows := affected }

/-- The failure as the driver reports it. -/
def report {α : Type} (failure : ModuleFailure) : Talk CursorDriver α := do
  throw (.driver (← failure.toDriverFault))

/-- A cursor is there for the operation and closed at last. A failure to get or to close one is let through. -/
def withCursor {α : Type} (op : Talk CursorDriver α) : Talk CursorDriver α := do
  Call.openCursor.bare
  op.andFinally Call.closeCursor.bare

/-- A statement on a cursor, which outside a transaction is committed. -/
def submit (d : CursorDriver) (sql : Value) (values : Parameters) : Call (Except Fault QueryResult) := do
  let result := resultOf (← Call.execute sql (some values))
  if result.isOk && !d.inTransaction then Call.commit
  pure result

/-- A statement whose failure is reported. Outside a transaction it rolls back before, and the failure of that
rollback is let through. -/
def attempt (d : CursorDriver) (sql : Value) (values : Parameters) :
    Talk CursorDriver (Except Fault QueryResult) :=
  (d.submit sql values).handled fun failure => do
    unless d.inTransaction do Call.rollback.bare
    report failure

/-- What is kept of a result: the identifier that it tells, or that there is one to be asked for. -/
def remember (engine : Engine) (sql : Value) (result : QueryResult) : Talk CursorDriver QueryResult := do
  let isKnown := result.lastInsertId.isTruthy
  if isKnown then Talk.update fun d => { d with lastInsertId := result.lastInsertId }
  let isOpenQuestion := (identityQuery? engine).isSome && !isKnown && result.affectedRows.same (.int 1)
  let identityPending ← if isOpenQuestion then addsRows sql else pure false
  Talk.update fun d => { d with identityPending }
  pure result

def execute (sql : Value) (values : List Value) : Talk CursorDriver QueryResult := do
  requireOpen
  let d ← Talk.state
  let converted ← d.style.convertValue sql
  let outcome ← withCursor (d.attempt converted (d.style.bind values))
  let result ← outcome
  remember d.engine sql result

/-- The first cell of the first row. -/
def firstCell (reply : CursorReply) : Value := ((reply.rows.head?.bind (·.head?))).getD .null

/-- An identifier that was read back: a number without its fraction, or a text as it is. -/
def identifierOf : Value → Except Fault Value
  | .null => pure .null
  | .text s => pure (.text s)
  | .int n => pure (.int n)
  | .bool b => pure (.int (if b then 1 else 0))
  | .float x => match x.truncate? with
    | some n => pure (.int n)
    | none => throw (if x.isNaN then .value .notANumber else .overflow)
  | _ => throw .typeMismatch

/-- A savepoint keeps a failure to read the identifier from spoiling the transaction. -/
def isGuarded (d : CursorDriver) : Bool := d.inTransaction && d.engine = .postgresql

/-- The first cell of what the query gives. -/
def fetchIdentity (d : CursorDriver) (query : String) : Call Value := do
  if d.isGuarded then let _ ← Call.execute (.text "SAVEPOINT querycraft_identity") none
  let reply ← Call.execute (.text query) none
  if d.isGuarded then let _ ← Call.execute (.text "RELEASE SAVEPOINT querycraft_identity") none
  else if !d.inTransaction then Call.commit
  pure (firstCell reply)

/-- What is done about a failure to read the identifier. Its own failure is let through. -/
def recover (d : CursorDriver) : Talk CursorDriver Unit := do
  if d.isGuarded then let _ ← (Call.execute (.text "ROLLBACK TO SAVEPOINT querycraft_identity") none).bare
  else if !d.inTransaction then Call.rollback.bare

/-- The query has failed, which is warned of, and nothing is found. -/
def giveUp (d : CursorDriver) (query : String) (failure : ModuleFailure) : Talk CursorDriver Value := do
  Talk.emit (.warn ("Failed to read generated id with " ++ query ++ ": " ++ (← failure.text)))
  d.recover
  pure .null

def lookUp (d : CursorDriver) (query : String) : Talk CursorDriver Value :=
  (d.fetchIdentity query).handled (d.giveUp query)

/-- The generated identifier is read back. -/
def readIdentity (query : String) : Talk CursorDriver Value := do
  requireOpen
  let d ← Talk.state
  let cell ← withCursor (d.lookUp query)
  identifierOf cell

/-- The generated identifier of the last insertion of one row. -/
def askInsertId : Talk CursorDriver Value := do
  let d ← Talk.state
  if d.identityPending then
    Talk.update fun d => { d with identityPending := false }
    if let some query := identityQuery? d.engine then
      let id ← readIdentity query
      Talk.update fun d => { d with lastInsertId := id }
  pure (← Talk.state).lastInsertId

/-- A connection is always in a transaction of its own, so no call is made. -/
def begin : Talk CursorDriver Unit := do
  requireOpen
  Talk.update fun d => { d with inTransaction := true }

/-- A call that ends the transaction, whether it succeeds or not. -/
def finish (call : Call Unit) : Talk CursorDriver Unit :=
  (call.handled report).andFinally
    (Talk.update fun d => { d with inTransaction := false })

def commit : Talk CursorDriver Unit := do
  requireOpen
  finish Call.commit

/-- Nothing is done when the connection is no longer there. -/
def rollback : Talk CursorDriver Unit := do
  if (← Talk.state).isOpen then finish Call.rollback

/-- A failure to close is let through and changes nothing. -/
def close : Talk CursorDriver Unit := do
  if (← Talk.state).isOpen then
    Call.close.bare
    Talk.update fun d => { d with isOpen := false, inTransaction := false }

end CursorDriver

end SqlBuilder
