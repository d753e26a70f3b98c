import SqlBuilder.DriverReport
import SqlBuilder.Number.Numeral
import SqlBuilder.Session.Declare

/-!
The execution of statements. Each execution notes its statement as the last one, runs the hooks in front of
it, hands the statement to the driver, and runs the hooks behind it. What the driver reports is raised as
a fault of the library, with the statement that was noted last.
-/

namespace SqlBuilder

namespace Execute

variable {α : Type}

/-- The hook that runs at an event on a table. -/
def hookFor (event : EventKind) (table : Value) : Act (Option Value) := do
  if table.isRaw then pure none
  else
    let _ ← Act.lift (HookTable.slot? table)
    pure (((← get).hooks.find? event table).filter fun hook => !hook.isNull)

/-- Runs what is registered at an event and gives what it returns. The script of a group is called with the
event and returns nothing. -/
def runHook (hook : Value) (call : HookCall) : Act Value := do
  match hook with
  | .hook name script => (← read).notify name script call
  | .group script =>
    Act.fill script .occasion
    pure .null
  | _ => throw .typeMismatch

/-- The further arguments of an event, which may be absent. -/
def argumentsOf (v : Value) : Except Fault (List (Value × Value)) :=
  if v.isTruthy then Entries.ofValue v else pure []

/-- Runs the hooks of an event: first the one for any table, then those of the tables that the builder
declares, in order. Gives what they return, but for absent values. -/
def fire (id : Nat) (event : EventKind) (statement : Option Issued) (arguments : Value) : Act (List Value) := do
  let tables := anyTable :: (← Act.draft id).tables.toList
  let answers ← tables.mapM fun table => do
    match ← hookFor event table with
    | none => pure Value.null
    | some hook =>
      Act.check table.written
      runHook hook { event, statement, builder := id, arguments := ← Act.lift (argumentsOf arguments) }
  pure (answers.filter fun v => !v.isNull)

/-- The operation of the driver, whose reports are raised as faults of the library. -/
def reported (operation : Driver → Except Fault α × Driver × List WireEntry) : Act α :=
  tryCatch (Act.driver operation) fun
    | .driver fault => do
      let s ← get
      throw (fault.toFault (some s.driver.engine) s.lastStatement)
    | fault => throw fault

/-- A builder of a transaction works only as long as the scope is open. -/
def requireOpen (id : Nat) : Act Unit := do
  if let .transaction scope := (← Act.builder id).role then
    if let some status ← Act.scopeStatus scope then throw (.sql (.scopeClosed status))

/-- The values of a sequence. -/
def itemsOf (v : Value) : Except Fault (List Value) :=
  match v.elements? with
  | some items => pure items
  | none => throw .typeMismatch

/-- SQL is handed to the driver with the values of a sequence. When that is done the SQL must be writable. -/
def statement (id : Nat) (sql values : Value) : Act QueryResult := do
  requireOpen id
  let values ← Act.lift (itemsOf values)
  let result ← reported fun d => d.execute sql values
  Act.check sql.written
  pure result

/-- A statement is handed to the driver. -/
def run (id : Nat) (s : Issued) : Act QueryResult := statement id s.sql (.tuple s.bindings)

/-- The statement is noted as the last one. -/
def remember (s : Issued) : Act Unit := modify fun session => { session with lastStatement := some s }

/-- A compiled statement, which is noted as the last one. -/
def prepare (id : Nat) (request : StatementRequest) : Act Issued := do
  let s ← Act.issued (← compile id request)
  remember s
  pure s

/-- The time that an execution takes is told, but not how long it is. -/
def timing : Value × Value := (.text "execution_time", .float (.zero false))

/-- An execution with the hooks around it. -/
def around (id : Nat) (before after : EventKind) (s : Issued) : Act QueryResult := do
  let _ ← fire id before (some s) .null
  let result ← run id s
  let _ ← fire id after (some s) (.map [timing])
  pure result

/-- A verbatim statement, whose rows the next fetch returns. -/
def query (id : Nat) (sql values : Value) : Act Unit := do
  let values ← Act.lift (itemsOf values)
  let s : Issued := ⟨sql, values, (← get).driver.hasEscapes⟩
  remember s
  let result ← around id .beforeQuery .afterQuery s
  Act.modifyBuilder id fun b => { b with pending := some result }

/-- The rows that a builder selects. The statement is compiled again behind the hooks, which may have
declared more. A result that is pending takes the place of the execution. -/
def selectRows (id : Nat) : Act (List Row) := do
  let early ← prepare id .select
  let _ ← fire id .beforeSelect (some early) .null
  let s ← prepare id .select
  let result ← match (← Act.builder id).pending with
    | none => run id s
    | some result => do
      Act.modifyBuilder id fun b => { b with pending := none }
      pure result
  let _ ← fire id .afterSelect (some s) (.map [timing])
  pure result.rows

/-- The cells of a row, if every column has a name. -/
def cellsOf (row : Row) : Except Fault (List (String × Value)) :=
  row.mapM fun
    | (.text name, v) => pure (name, v)
    | _ => throw .typeMismatch

/-- The columns are those that a factory asks for, in any order. -/
def hasColumns (columns : List String) (cells : List (String × Value)) : Bool :=
  columns.all (fun name => (cells.map (·.1)).contains name) && cells.all fun cell => columns.contains cell.1

/-- A row as the object that the factory makes of it. -/
def objectOf (factory : Value) (row : Row) : Except Fault Value := do
  match factory with
  | .factory columns =>
    let cells ← cellsOf row
    if columns.all fun columns => hasColumns columns cells then pure (.record cells)
    else throw (.raised "unexpected fields")
  | _ => throw .typeMismatch

def fetchAll (id : Nat) : Act (List Value) := do
  let rows ← selectRows id
  let factory := (← Act.builder id).factory
  if factory.isNull then pure (rows.map Value.map) else Act.lift (rows.mapM (objectOf factory))

/-- The first row, or an absent value. The limit stays declared. -/
def first (id : Nat) : Act Value := do
  Act.modifyDraft id fun d => { d with limit := some (.int 1) }
  pure ((← fetchAll id).head?.getD .null)

/-- A number as a floating-point number; a text is read as one. -/
def floatOf (v : Value) : Except Fault Number.Binary64 :=
  let ofInt (i : Int) : Except Fault Number.Binary64 :=
    match Number.Binary64.ofInt? i with
    | some x => pure x
    | none => throw .overflow
  match v with
  | .float x => pure x
  | .int i => ofInt i
  | .bool b => ofInt (if b then 1 else 0)
  | .text s => match Number.binary64OfText? s with
    | some x => pure x
    | none => throw (.value .notANumber)
  | _ => throw .typeMismatch

/-- A number without its fraction. -/
def wholeOf (v : Value) : Except Fault Value :=
  match v with
  | .float x => match x.truncate? with
    | some i => pure (.int i)
    | none => throw (if x.isNaN then .value .notANumber else .overflow)
  | v => pure v

/-- The draft is changed for the operation and gets its projection and its order back afterwards. -/
def withProjection (id : Nat) (projection : List Field) (operation : Act α) : Act α := do
  let d ← Act.draft id
  Act.modifyDraft id fun d => { d with selects := some projection, orderBys := none }
  let restore := Act.modifyDraft id fun now => { now with selects := d.selects, orderBys := d.orderBys }
  let outcome ← tryCatch (do pure (Except.ok (← operation))) fun fault => pure (.error fault)
  restore
  Act.lift outcome

/-- The rows with the expression in place of the projection. A draft that shapes its rows is wrapped, so
that the expression is worked out over the rows it gives. -/
def expressionRows (id : Nat) (expression : Value) : Act (List Row) := do
  if (← Act.draft id).shapesRows then
    let wrapped ← Declare.subQuery (← Act.builderValue id) (.text "count")
    let wrapper ← Declare.table id [wrapped]
    let b ← Act.builder wrapper
    Act.modifyDraft wrapper (Draft.select b.lead b.overwriting.isTruthy [expression])
    selectRows wrapper
  else withProjection id [.plain expression] (selectRows id)

/-- A function over the rows. The field must be selected if the draft selects any, and the draft must have
a table. Without a row, and for an absent value, the result is zero. -/
def aggregate (id : Nat) (function : String) (field : Value) : Act Value := do
  let d ← Act.draft id
  let selects := (d.selects.getD []).map Field.toValue
  if !field.same (.text "*") && !selects.isEmpty && !field.isAmong selects then
    throw (.sql (.columnNotSelected (← Act.lift field.written)))
  if d.tables.toList.isEmpty then throw (.sql .noTable)
  let operand ← Act.lift field.written
  let name ← Act.lift ((← Act.dialect).identifier (.text "field"))
  let rows ← expressionRows id (.raw (.text (Text.upper function ++ "(" ++ operand ++ ") AS " ++ name)) [])
  match rows.head?.bind (Value.lookup? (.text "field")) with
  | none => pure (.int 0)
  | some .null => pure (.int 0)
  | some v => do Act.marked (← Act.lift (floatOf v))

def count (id : Nat) (field : Value) : Act Value := do Act.lift (wholeOf (← aggregate id "count" field))

/-- The insertion of one row. The identifier is asked for only if one row was added. -/
def insertRow (id : Nat) (verb : InsertVerb) (data : Value) : Act Value := do
  let s ← prepare id (.insert verb data)
  let _ ← fire id .beforeInsert (some s) .null
  let result ← run id s
  let insertId ← if result.affectedRows.same (.int 1) then Act.driver fun d => d.lastInsertId else pure .null
  let _ ← fire id .afterInsert (some s) (.map [(.text "insert_id", insertId), timing])
  pure insertId

def update (id : Nat) (data : Value) : Act QueryResult := do
  around id .beforeUpdate .afterUpdate (← prepare id (.update data))

def delete (id : Nat) (columns : Value) : Act QueryResult := do
  around id .beforeDelete .afterDelete (← prepare id (.delete columns))

end Execute

end SqlBuilder
