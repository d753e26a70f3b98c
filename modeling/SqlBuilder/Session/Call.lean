import SqlBuilder.Session.Transaction

/-!
The calls that a builder and its connection answer, as data, and what each of them does.
-/

namespace SqlBuilder

/-- The functions over rows that a builder offers. -/
inductive Aggregate where
  | sum
  | average
  | minimum
  | maximum
  deriving DecidableEq, Repr

namespace Aggregate

/-- The function as SQL calls it. -/
def name : Aggregate → String
  | sum => "sum"
  | average => "avg"
  | minimum => "min"
  | maximum => "max"

end Aggregate

/-- A call of a builder, with all its values. -/
inductive BuilderCall where
  | table (tables : List Value)
  | setTables (tables : List Value)
  | nameTable (shortName table : Value)
  | select (fields : List Value)
  | selectDistinct (fields : List Value)
  | distinctOn (fields : List Value)
  | condition (joiner : String) (key operator operand : Value)
  | having (key operator operand joiner : Value)
  | join (table key operator operand kind : Value)
  | joinUsing (table fields kind : Value)
  | on (key operator operand joiner : Value)
  | usingColumns (columns : Value)
  | groupBy (fields : Value)
  | orderBy (fields direction : Value)
  | limit (number : Value)
  | offset (number : Value)
  | fetchNext (number : Value)
  | lock (clause : Value)
  | onDuplicate (data : Value)
  | union (member kind : Value)
  | asObject (factory : Value)
  | setOverwriting (flag : Value)
  /-- The draft of another builder is used from now on. -/
  | shareDraft (other : Value)
  | clone
  | newQuery
  | raw (sql : Value) (bindings : List Value)
  | subQuery (member shortName : Value)
  | addPrefix (names : Value) (scope : NameScope)
  | isOverwriting
  | firstAlias
  | firstTable
  | resultColumns
  | view
  /-- The builder of the join with that number. -/
  | joinBuilder (number : Value)
  | registerHook (event hook table : Value)
  | removeHook (event table : Value)
  | findHook (event table : Value)
  | fire (event arguments : Value)
  | query (sql values : Value)
  | statement (sql values : Value)
  | fetchAll
  | first
  | find (v field : Value)
  | findAll (field v : Value)
  | count (field : Value)
  | aggregate (function : Aggregate) (field : Value)
  | insert (verb : InsertVerb) (data : Value)
  | update (data : Value)
  | updateOrInsert (data : Value)
  | delete (columns : Value)
  | commit
  | rollback
  | isClosed
  | status

/-- A call of what a builder works with. -/
inductive ConnectionCall where
  | newBuilder (kind : BuilderKind)
  | lastQuery
  | lastText
  | inTransaction
  | close
  | driverExecute (sql values : Value)
  | driverQuote (v : Value)
  | driverBegin
  | driverCommit
  | driverRollback
  | driverInsertId
  | identifier (v : Value)
  | tableName (v : Value)
  | nameList (names glue wraps : Value)
  | rawBindings (pieces : Value)
  | registerHook (event hook table : Value)
  | removeHook (event table : Value)
  | findHook (event table : Value)
  | hooks

namespace Hooks

def register (event hook table : Value) : Act Unit := do
  let kind ← Act.lift (EventKind.ofValue event)
  let _ ← Act.lift (HookTable.slot? table)
  modify fun s => { s with hooks := s.hooks.register kind hook table }

def remove (event table : Value) : Act Unit := do
  let _ ← Act.lift (HookTable.slot? table)
  let kind ← Act.lift (EventKind.ofValue event)
  modify fun s => { s with hooks := s.hooks.remove kind table }

def find (event table : Value) : Act Value := do
  if table.isRaw then pure .null
  else
    let kind ← Act.lift (EventKind.ofValue event)
    pure ((← Execute.hookFor kind table).getD .null)

/-- The table of a hook with the prefix of the builder. The slot for any table has none. -/
def tableOf (id : Nat) (table : Value) : Act Value :=
  if table.isNull || table.same anyTable then pure table else Declare.withLead id .tables table

end Hooks

/-- A fragment of SQL. One sequence alone is the list of its values. -/
def fragment (content : Value) (bindings : List Value) : Value :=
  match bindings with
  | [.list items] => .raw content items
  | [.tuple items] => .raw content items
  | bindings => .raw content bindings

/-- An operation that gives nothing. -/
def silently (operation : Act Unit) : Act Value := do
  operation
  pure .null

namespace BuilderCall

/-- An operation on a builder, which is what it gives. -/
def declaring (id : Nat) (change : Act Unit) : Act Value := do
  change
  Act.builderValue id

/-- The same for a change of the draft that cannot fail. -/
def changing (id : Nat) (f : Builder → Draft → Draft) : Act Value := do
  let b ← Act.builder id
  declaring id (Act.modifyDraft id (f b))

/-- The number of the scope of a builder that works in a transaction. -/
def scopeOf (id : Nat) : Act Nat := do
  match (← Act.builder id).role with
  | .transaction scope => pure scope
  | _ => throw .missingMember

/-- The builder of the join with that number. -/
def joinAt (id : Nat) (number : Value) : Act Value := do
  let some n := number.asInt? | throw .typeMismatch
  let joins := (← Act.draft id).joins.getD []
  let place := if n < 0 then joins.length + n else n
  if place < 0 then throw .outOfRange
  match joins[place.toNat]? with
  | none => throw .outOfRange
  | some j => do pure ((← j.builder.mapM Act.builderValue).getD .null)

/-- What a builder does when it is called. -/
def perform (id : Nat) : BuilderCall → Act Value
  | .table tables => do Act.builderValue (← Declare.table id tables)
  | .setTables tables => declaring id (Declare.setTables id tables)
  | .nameTable shortName named => declaring id do
      Act.drafting id (Draft.nameTable (← Act.builder id).lead shortName named)
  | .select fields => changing id fun b => Draft.select b.lead b.overwriting.isTruthy fields
  | .selectDistinct fields => changing id fun b => Draft.selectDistinct b.lead b.overwriting.isTruthy fields
  | .distinctOn fields => changing id fun b => Draft.addDistinctOn b.lead fields
  | .condition joiner key operator operand =>
      declaring id (Declare.condition id joiner key operator operand)
  | .having key operator operand joiner => declaring id (Declare.having id key operator operand joiner)
  | .join joined key operator operand kind => declaring id (Declare.join id joined key operator operand kind)
  | .joinUsing joined fields kind => declaring id (Declare.joinUsing id joined fields kind)
  | .on key operator operand joiner => declaring id (Declare.on id key operator operand joiner)
  | .usingColumns columns => declaring id (Declare.usingColumns id columns)
  | .groupBy fields => changing id fun b => Draft.groupBy b.lead b.overwriting.isTruthy fields
  | .orderBy fields direction => declaring id (Declare.orderBy id fields direction)
  | .limit number => changing id fun _ d => { d with limit := some number }
  | .offset number => changing id fun _ d => { d with offset := some number }
  | .fetchNext number => changing id fun _ d => { d with fetchNext := some number }
  | .lock clause => changing id fun _ => Draft.lock clause
  | .onDuplicate data => declaring id (Act.drafting id (Draft.addOnDuplicate data))
  | .union member kind => declaring id (Declare.union id member kind)
  | .asObject factory => declaring id (Act.modifyBuilder id fun b => { b with factory })
  | .setOverwriting flag => declaring id (Act.modifyBuilder id fun b => { b with overwriting := flag })
  | .shareDraft other => declaring id do
      let .builder _ other := other | throw .missingMember
      let draft ← Act.draftOf other
      Act.modifyBuilder id fun b => { b with draft }
  | .clone => do Act.builderValue (← Declare.clone (← read).depth id)
  | .newQuery => do Act.builderValue (← Declare.newQuery id)
  | .raw sql bindings => pure (fragment sql bindings)
  | .subQuery member shortName => Declare.subQuery member shortName
  | .addPrefix names scope => Declare.withLead id scope names
  | .isOverwriting => do pure (← Act.builder id).overwriting
  | .firstAlias => do pure (← Act.draft id).firstAlias
  | .firstTable => do pure (← Act.draft id).firstTable
  | .resultColumns => do Act.lift (← Act.draft id).resultColumns
  | .view => do Declare.view (← read).depth id
  | .joinBuilder number => joinAt id number
  | .registerHook event hook named => silently do Hooks.register event hook (← Hooks.tableOf id named)
  | .removeHook event named => silently do Hooks.remove event (← Hooks.tableOf id named)
  | .findHook event named => do Hooks.find event (← Hooks.tableOf id named)
  | .fire event arguments => do
      pure (.list (← Execute.fire id (← Act.lift (EventKind.ofValue event)) none arguments))
  | .query sql values => declaring id (Execute.query id sql values)
  | .statement sql values => do pure (← Execute.statement id sql values).toValue
  | .fetchAll => do pure (.list (← Execute.fetchAll id))
  | .first => Execute.first id
  | .find v field => do
      let (operator, v) := Declare.operatorAndOperand (some (.text "=")) (some v)
      Declare.condition id "AND" field operator v
      Execute.first id
  | .findAll field v => do
      let (operator, v) := Declare.operatorAndOperand (some (.text "=")) (some v)
      Declare.condition id "AND" field operator v
      pure (.list (← Execute.fetchAll id))
  | .count field => Execute.count id field
  | .aggregate function field => Execute.aggregate id function.name field
  | .insert verb data => Transaction.insert verb id data
  | .update data => do pure (← Execute.update id data).toValue
  | .updateOrInsert data => Transaction.updateOrInsert id data
  | .delete columns => do pure (← Execute.delete id columns).toValue
  | .commit => silently do
      let _ ← scopeOf id
      Transaction.finish id .committed
  | .rollback => silently do
      let _ ← scopeOf id
      Transaction.finish id .rolledBack
  | .isClosed => do pure (.bool (← Act.scopeStatus (← scopeOf id)).isSome)
  | .status => do pure (((← Act.scopeStatus (← scopeOf id)).map fun s => Value.text s.name).getD .null)

end BuilderCall

namespace ConnectionCall

/-- The values for a statement, which may be absent. -/
def valuesOf (v : Value) : Except Fault (List Value) := if v.isTruthy then Execute.itemsOf v else pure []

/-- A name as an identifier. What can be called is given back as it is. -/
def identifierValue (d : Dialect) (v : Value) : Except Fault Value :=
  if v.isCallable then pure v else do pure (.text (← d.identifier v))

/-- Names with the glue in between, as identifiers or as they are. What can be called is no text, which is found
out after everything else. -/
def gluedNames (d : Dialect) (names glue wraps : Value) : Except Fault Value := do
  let pieces ← (← Execute.itemsOf names).mapM fun v =>
    if wraps.isTruthy then identifierValue d v else do pure (.text (← v.written))
  let .text glue := glue | throw .missingMember
  if pieces.all Value.isText then pure (.text (Text.joined glue (pieces.filterMap Value.text?)))
  else throw .typeMismatch

/-- The values of the fragments of SQL among the pieces. -/
def bindingsOf (pieces : Value) : Except Fault Value := do
  pure (.list ((← Execute.itemsOf pieces).flatMap Value.fragmentBindings))

/-- The hooks as a value, by table and event. -/
def hooksValue (hooks : HookTable) : Value :=
  .map (hooks.map fun entry =>
    (entry.1, .map (entry.2.map fun registered => (.text registered.1.name, registered.2))))

/-- What a new builder of a kind is for. A transaction gets a scope of its own. -/
def roleOf : BuilderKind → Act BuilderRole
  | .query => pure .query
  | .group => pure .group
  | .join => pure .join
  | .transaction => do pure (.transaction (← Act.newScope))

/-- What a connection does when it is called. -/
def perform : ConnectionCall → Act Value
  | .newBuilder kind => do Act.builderValue (← Act.newBuilder (← roleOf kind))
  | .lastQuery => do pure (((← get).lastStatement.map Issued.toValue).getD .null)
  | .lastText => do
      let some s := (← get).lastStatement | throw .missingMember
      let some text := s.text? | throw .typeMismatch
      pure (.text text)
  | .inTransaction => do pure (.bool (← get).driver.inTransaction)
  | .close => silently (Act.driver Driver.close)
  | .driverExecute sql values => do
      Act.lift (← get).driver.requireOpen
      let values ← Act.lift (valuesOf values)
      pure (← Act.driver fun d => d.execute sql values).toValue
  | .driverQuote v => do pure (.text (quoteFor (← get).driver.hasEscapes (← Act.lift v.written)))
  | .driverBegin => silently (Act.driver Driver.begin)
  | .driverCommit => silently (Act.driver Driver.commit)
  | .driverRollback => silently (Act.driver Driver.rollback)
  | .driverInsertId => Act.driver Driver.lastInsertId
  | .identifier v => do Act.lift (identifierValue (← Act.dialect) v)
  | .tableName v => do
      let d ← Act.dialect
      if d.quotesTables then Act.lift (identifierValue d v) else pure (.text (← Act.lift v.written))
  | .nameList names glue wraps => do Act.lift (gluedNames (← Act.dialect) names glue wraps)
  | .rawBindings pieces => Act.lift (bindingsOf pieces)
  | .registerHook event hook table => silently (Hooks.register event hook table)
  | .removeHook event table => silently (Hooks.remove event table)
  | .findHook event table => Hooks.find event table
  | .hooks => do pure (hooksValue (← get).hooks)

end ConnectionCall

end SqlBuilder
