import SqlBuilder.Driver.Wire
import SqlBuilder.Text.Strip
import SqlBuilder.Text.Case

/-!
The driver for SQLite. The database takes question marks as they are. Outside a transaction every
statement is committed by the database itself; the driver keeps a flag of its own beside the one of the
connection. Any statement may begin or end a transaction of the connection (`BEGIN IMMEDIATE`,
`SAVEPOINT s`, `END`), and so may one that fails; the driver does not look at what it is given.
-/

namespace SqlBuilder

/-- A failure of the database, by the class of its report. -/
structure SqliteFailure where
  className : String := "OperationalError"
  message : String
  /-- The result code, which may be an extended one. -/
  code : Option Int := none

namespace SqliteFailure

/-- The result code of a violated constraint. -/
def constraintCode : Int := 19

def isIntegrity (f : SqliteFailure) : Bool := f.className = "IntegrityError"

/-- The report in the terms of a driver: the primary result code under the state of a violated constraint
or of any other failure. -/
def toDriverFault (f : SqliteFailure) : DriverFault where
  sqlState := .text (if f.isIntegrity then "23000" else "HY000")
  code := .int (match f.code with
    | some code => code.emod 256
    | none => if f.isIntegrity then constraintCode else 1)
  message := .text f.message

/-- A warning is no failure that the driver knows of and goes on as it is. -/
def toFault (f : SqliteFailure) : Fault :=
  if f.className = "Warning" then .foreign f.className else .driver f.toDriverFault

end SqliteFailure

/-- An answer of the database. -/
structure SqliteReply where
  failure : Option SqliteFailure := none
  columns : List String := []
  rows : List (List Value) := []
  /-- The number of rows that were changed. A number below zero tells nothing. -/
  rowCount : Value := .int (-1)
  lastRowId : Value := .null
  /-- Whether the connection is in a transaction behind the statement, if that changes. -/
  turnsTo : Option Bool := none

/-- Whether the connection is in a transaction behind a statement. The words of the driver that succeed
decide that, and otherwise the database tells. -/
def SqliteReply.busyBehind (reply : SqliteReply) (sql : Value) (isBusy : Bool) : Bool :=
  if reply.failure.isSome then reply.turnsTo.getD isBusy
  else if sql.same (.text "BEGIN") then true
  else if sql.same (.text "COMMIT") || sql.same (.text "ROLLBACK") then false
  else reply.turnsTo.getD isBusy

structure SqliteDriver where
  replies : List SqliteReply
  /-- The connection is still there. -/
  isOpen : Bool := true
  /-- The connection is in a transaction. -/
  connectionBusy : Bool := false
  inTransaction : Bool := false
  lastInsertId : Value := .null

namespace SqliteDriver

/-- The answer that the next statement gets. -/
def reply (d : SqliteDriver) : SqliteReply := d.replies.head?.getD {}

/-- The driver behind a statement, whose answer is taken. -/
def sent (d : SqliteDriver) (sql : Value) : SqliteDriver :=
  { d with replies := d.replies.tail, connectionBusy := d.reply.busyBehind sql d.connectionBusy }

/-- The statement reaches the connection. -/
def send (sql : Value) (values : List Value) : Talk SqliteDriver SqliteReply := do
  Talk.emit (.prepared sql values)
  let d ← Talk.state
  Talk.update fun d => d.sent sql
  match d.reply.failure with
  | some failure => throw failure.toFault
  | none => pure d.reply

def requireOpen : Talk SqliteDriver Unit := do
  unless (← Talk.state).isOpen do throw (.closed "Not connected to database. Call connect() first.")

/-- A name without regard to the case of its ASCII letters. -/
def foldedName (s : String) : List Char := s.toList.map Char.toLower

/-- The cell of the first column of that name, without regard to the case of ASCII letters. -/
def cell? (columns : List String) (cells : List Value) (name : String) : Option Value :=
  ((columns.zip cells).find? fun entry => foldedName entry.1 = foldedName name).map (·.2)

/-- A row by column; of columns with the same name the first one gives the value. -/
def rowOf (columns : List String) (cells : List Value) : Row :=
  Value.entriesOf (columns.map fun name => (.text name, (cell? columns cells name).getD .null))

def execute (sql : Value) (values : List Value) : Talk SqliteDriver QueryResult := do
  requireOpen
  let reply ← send sql values
  let rows := if reply.columns.isEmpty then [] else reply.rows.map (rowOf reply.columns)
  let some isPositive := reply.rowCount.isPositive? | throw .typeMismatch
  let affected := if isPositive then reply.rowCount else .int 0
  let id := if reply.lastRowId.isTruthy then reply.lastRowId else .null
  if reply.lastRowId.isTruthy then Talk.update fun d => { d with lastInsertId := id }
  pure {
    rows
    rowCount := if reply.columns.isEmpty then affected else .int rows.length
    columns := reply.columns.map Value.text
    lastInsertId := id
    affectedRows := affected }

def begin : Talk SqliteDriver Unit := do
  requireOpen
  let _ ← send (.text "BEGIN") []
  Talk.update fun d => { d with inTransaction := true }

/-- Whether the statement succeeds or not, the flag is the one of the connection afterwards. -/
def commit : Talk SqliteDriver Unit := do
  requireOpen
  (do let _ ← send (.text "COMMIT") []).andFinally
    (Talk.update fun d => { d with inTransaction := d.connectionBusy })

/-- Nothing is sent when the connection is in no transaction or no longer there. -/
def rollback : Talk SqliteDriver Unit := do
  let d ← Talk.state
  if d.isOpen then
    if d.connectionBusy then
      let _ ← send (.text "ROLLBACK") []
    Talk.update fun d => { d with inTransaction := false }

def close : Talk SqliteDriver Unit := do
  if (← Talk.state).isOpen then
    Talk.emit .close
    Talk.update fun d => { d with isOpen := false, inTransaction := false }

/-- The settings of a new connection: the wait for a lock, the check of foreign keys, and what the options
say. -/
def pragmas (options : List (Value × Value)) : List (Value × Value) :=
  Value.entriesOf ([(.text "busy_timeout", .int 30000), (.text "foreign_keys", .text "ON")] ++ options)

/-- A setting is made. One that the database refuses is passed over with a warning. -/
def applyPragma (entry : Value × Value) : Talk SqliteDriver Unit := do
  let setting := (← entry.1.written) ++ "=" ++ (← entry.2.written)
  tryCatch (do let _ ← send (.text ("PRAGMA " ++ setting)) []) fun
    | .driver fault => do
      Talk.emit (.warn ("Failed to set PRAGMA " ++ setting ++ ": " ++ (← fault.message.written)))
    | fault => throw fault

/-- A path other than one that starts with a colon names a file, whose directory is made. -/
def isFilePath (path : String) : Bool := !Text.startsWith path ":"

/-- A connection is opened and set up. That the options cannot be read is found out in between. -/
def connect (path : String) (failure : Option SqliteFailure)
    (options : Except Fault (List (Value × Value))) : Talk SqliteDriver Unit := do
  Talk.emit (.connect path)
  if let some failure := failure then throw failure.toFault
  match options with
  | .ok options => (pragmas options).forM applyPragma
  | .error fault => throw fault

end SqliteDriver

end SqlBuilder
