import SqlBuilder.Session.Call

/-!
The names of calls in scripts, and the values that they take. Values come in order or by the name of a
parameter. A parameter that gets none has a default or must be given, and a value without a parameter is
refused.
-/

namespace SqlBuilder

/-- The values of a call. -/
structure Arguments where
  inOrder : List Value
  byName : List (String × Value)

namespace Arguments

/-- The value of the parameter with the given place and name. -/
def value? (a : Arguments) (place : Nat) (name : String) : Option Value :=
  (a.inOrder[place]?).or ((a.byName.find? fun entry => entry.1 = name).map (·.2))

/-- The values of the parameters, the first of which are required. -/
def bind (a : Arguments) (names : List String) (required : Nat) : Except Fault (List (Option Value)) :=
  let free := names.drop a.inOrder.length
  let values := names.zipIdx.map fun (name, place) => a.value? place name
  if a.inOrder.length ≤ names.length && a.byName.all (fun entry => free.contains entry.1) &&
      (values.take required).all Option.isSome then pure values
  else throw .typeMismatch

/-- Values that come in order only. -/
def sequence (a : Arguments) : Except Fault (List Value) :=
  if a.byName.isEmpty then pure a.inOrder else throw .typeMismatch

end Arguments

/-- A call by what it is made on. -/
inductive Call where
  | builder (call : BuilderCall)
  | connection (call : ConnectionCall)
  /-- The statement that a builder stands for, by the name of its kind and what belongs to it. -/
  | compile (kind : Value) (extra : List Value)

namespace Call

/-- The parameter at a place, or its default. -/
def orElse (values : List (Option Value)) (place : Nat) (default : Value) : Value :=
  (values[place]?.getD none).getD default

/-- The joiners of the calls that add a condition, by the last part of their names. -/
def conditionJoiner? : String → Option (String × String)
  | "where" => some ("AND", "")
  | "or_where" => some ("OR", "")
  | "where_not" => some ("AND NOT", "")
  | "or_where_not" => some ("OR NOT", "")
  | "where_in" => some ("AND", "IN")
  | "or_where_in" => some ("OR", "IN")
  | "where_not_in" => some ("AND", "NOT IN")
  | "or_where_not_in" => some ("OR", "NOT IN")
  | "where_between" => some ("AND", "BETWEEN")
  | "or_where_between" => some ("OR", "BETWEEN")
  | "where_null" => some ("AND", "IS")
  | "or_where_null" => some ("OR", "IS")
  | "where_not_null" => some ("AND", "IS NOT")
  | "or_where_not_null" => some ("OR", "IS NOT")
  | _ => none

/-- A condition on rows. Most operators come with the name of the call. -/
def condition (joiner operator : String) (a : Arguments) : Except Fault BuilderCall := do
  match operator with
  | "" => do
    let values ← a.bind ["key", "operator", "value"] 1
    let (operator, operand) := Declare.operatorAndOperand (values[1]?.getD none) (values[2]?.getD none)
    pure (.condition joiner (orElse values 0 .null) operator operand)
  | "BETWEEN" => do
    let values ← a.bind ["key", "value_from", "value_to"] 3
    pure (.condition joiner (orElse values 0 .null) (.text operator)
      (.list [orElse values 1 .null, orElse values 2 .null]))
  | "IS" => do
    let values ← a.bind ["key"] 1
    pure (.condition joiner (orElse values 0 .null) (.text operator) (.raw (.text "NULL") []))
  | "IS NOT" => do
    let values ← a.bind ["key"] 1
    pure (.condition joiner (orElse values 0 .null) (.text operator) (.raw (.text "NULL") []))
  | operator => do
    let values ← a.bind ["key", "values"] 2
    pure (.condition joiner (orElse values 0 .null) (.text operator) (orElse values 1 .null))

/-- A call with one parameter. -/
def one (a : Arguments) (name : String) (call : Value → BuilderCall) : Except Fault BuilderCall := do
  pure (call (orElse (← a.bind [name] 1) 0 .null))

/-- A call without parameters. -/
def plain (a : Arguments) (call : BuilderCall) : Except Fault BuilderCall := do
  let _ ← a.bind [] 0
  pure call

/-- The calls that only the builder of a join answers. -/
def ofJoin (name : String) (a : Arguments) : Option (Except Fault BuilderCall) :=
  match name with
  | "on" => some do
    let values ← a.bind ["key", "operator", "value", "joiner"] 3
    pure (.on (orElse values 0 .null) (orElse values 1 .null) (orElse values 2 .null)
      (orElse values 3 (.text "AND")))
  | "or_on" => some do
    let values ← a.bind ["key", "operator", "value"] 3
    pure (.on (orElse values 0 .null) (orElse values 1 .null) (orElse values 2 .null) (.text "OR"))
  | "using" => some (one a "columns" .usingColumns)
  | _ => none

/-- The calls that only the builder of a transaction answers. -/
def ofTransaction (name : String) (a : Arguments) : Option (Except Fault BuilderCall) :=
  match name with
  | "commit" => some (plain a .commit)
  | "rollback" => some (plain a .rollback)
  | "closed" => some (pure .isClosed)
  | "status" => some (pure .status)
  | _ => none

/-- The calls of joining: of a fixed kind, or of one that is given. -/
def joining (kind : String) (a : Arguments) : Except Fault BuilderCall := do
  let values ← a.bind ["table", "key", "operator", "value"] 2
  pure (.join (orElse values 0 .null) (orElse values 1 .null) (orElse values 2 .null) (orElse values 3 .null)
    (.text kind))

/-- The calls that declare, but for conditions. -/
def declaration (name : String) (a : Arguments) : Option (Except Fault BuilderCall) :=
  match name with
  | "table" => some do pure (.table (← a.sequence))
  | "from" => some do pure (.setTables (← a.sequence))
  | "alias" => some do
    let values ← a.bind ["alias", "table"] 1
    pure (.nameTable (orElse values 0 .null) (orElse values 1 .null))
  | "select" => some do pure (.select (← a.sequence))
  | "select_distinct" => some do pure (.selectDistinct (← a.sequence))
  | "distinct_on" => some do pure (.distinctOn (← a.sequence))
  | "having" => some do
    let values ← a.bind ["key", "operator", "value", "joiner"] 3
    pure (.having (orElse values 0 .null) (orElse values 1 .null) (orElse values 2 .null)
      (orElse values 3 (.text "AND")))
  | "or_having" => some do
    let values ← a.bind ["key", "operator", "value"] 3
    pure (.having (orElse values 0 .null) (orElse values 1 .null) (orElse values 2 .null) (.text "OR"))
  | "join" => some do
    let values ← a.bind ["table", "key", "operator", "value", "type"] 1
    pure (.join (orElse values 0 .null) (orElse values 1 .null) (orElse values 2 .null)
      (orElse values 3 .null) (orElse values 4 (.text "")))
  | "inner_join" => some (joining "inner" a)
  | "left_join" => some (joining "left" a)
  | "right_join" => some (joining "right" a)
  | "join_using" => some do
    let values ← a.bind ["table", "fields", "type"] 2
    pure (.joinUsing (orElse values 0 .null) (orElse values 1 .null) (orElse values 2 (.text "")))
  | "group_by" => some (one a "fields" .groupBy)
  | "order_by" => some do
    let values ← a.bind ["fields", "direction"] 1
    pure (.orderBy (orElse values 0 .null) (orElse values 1 (.text "ASC")))
  | "limit" => some (one a "limit" .limit)
  | "offset" => some (one a "offset" .offset)
  | "fetch_next" => some (one a "fetch_next" .fetchNext)
  | "for" => some (one a "statement" .lock)
  | "on_duplicate_key_update" => some (one a "data" .onDuplicate)
  | "union" => some do
    let values ← a.bind ["query", "union_type"] 1
    pure (.union (orElse values 0 .null) (orElse values 1 (.text "")))
  | "as_object" => some (one a "factory" .asObject)
  | "set_overwrite_enabled" => some (one a "enabled" .setOverwriting)
  | "share_statements" => some (one a "builder" .shareDraft)
  | _ => none

/-- The calls that ask a builder for something or make something of it. -/
def question (name : String) (a : Arguments) : Option (Except Fault BuilderCall) :=
  match name with
  | "clone" => some (plain a .clone)
  | "new_query" => some (plain a .newQuery)
  | "raw" => some do
    match a.inOrder, a.byName with
    | sql :: bindings, [] => pure (.raw sql bindings)
    | [], [("value", sql)] => pure (.raw sql [])
    | _, _ => throw .typeMismatch
  | "sub_query" => some do
    let values ← a.bind ["query", "alias"] 1
    pure (.subQuery (orElse values 0 .null) (orElse values 1 .null))
  | "add_table_prefix" => some do
    let values ← a.bind ["values", "table_field_mix"] 1
    let scope : NameScope := if (orElse values 1 (.bool true)).isTruthy then .columns else .tables
    pure (.addPrefix (orElse values 0 .null) scope)
  | "is_overwrite_enabled" => some (plain a .isOverwriting)
  | "get_alias" => some (plain a .firstAlias)
  | "get_table" => some (plain a .firstTable)
  | "get_columns" => some (plain a .resultColumns)
  | "statements" => some (pure .view)
  | "join_builder" => some (one a "number" .joinBuilder)
  | "register_event" => some do
    let values ← a.bind ["event", "action", "table"] 2
    pure (.registerHook (orElse values 0 .null) (orElse values 1 .null) (orElse values 2 .null))
  | "remove_event" => some do
    let values ← a.bind ["event", "table"] 1
    pure (.removeHook (orElse values 0 .null) (orElse values 1 .null))
  | "get_event" => some do
    let values ← a.bind ["event", "table"] 1
    pure (.findHook (orElse values 0 .null) (orElse values 1 .null))
  | "events.fire" => some do
    let values ← a.bind ["event", "arguments"] 1
    pure (.fire (orElse values 0 .null) (orElse values 1 .null))
  | _ => none

/-- The calls that execute statements. -/
def execution (name : String) (a : Arguments) : Option (Except Fault BuilderCall) :=
  match name with
  | "query" => some do
    let values ← a.bind ["sql", "bindings"] 1
    pure (.query (orElse values 0 .null) (orElse values 1 (.tuple [])))
  | "statement" => some do
    let values ← a.bind ["sql", "bindings"] 1
    pure (.statement (orElse values 0 .null) (orElse values 1 (.tuple [])))
  | "get" => some (plain a .fetchAll)
  | "first" => some (plain a .first)
  | "find" => some do
    let values ← a.bind ["value", "field"] 1
    pure (.find (orElse values 0 .null) (orElse values 1 (.text "id")))
  | "find_all" => some do
    let values ← a.bind ["field", "value"] 2
    pure (.findAll (orElse values 0 .null) (orElse values 1 .null))
  | "count" => some do
    pure (.count (orElse (← a.bind ["field"] 0) 0 (.text "*")))
  | "sum" => some (one a "field" (.aggregate .sum))
  | "average" => some (one a "field" (.aggregate .average))
  | "min" => some (one a "field" (.aggregate .minimum))
  | "max" => some (one a "field" (.aggregate .maximum))
  | "insert" => some (one a "data" (.insert .insert))
  | "insert_ignore" => some (one a "data" (.insert .insertIgnore))
  | "replace" => some (one a "data" (.insert .replace))
  | "update" => some (one a "data" .update)
  | "update_or_insert" => some (one a "data" .updateOrInsert)
  | "delete" => some do
    pure (.delete (orElse (← a.bind ["columns"] 0) 0 .null))
  | _ => none

/-- The calls of a builder with the given role. -/
def ofBuilder (role : BuilderRole) (name : String) (a : Arguments) : Option (Except Fault BuilderCall) :=
  match conditionJoiner? name with
  | some (joiner, operator) => some (condition joiner operator a)
  | none =>
    let special := match role with
      | .join => ofJoin name a
      | .transaction _ => ofTransaction name a
      | _ => none
    ((special.or (declaration name a)).or (question name a)).or (execution name a)

/-- The kind of a new builder by its name. -/
def newBuilder (kind : Value) : Except Fault ConnectionCall :=
  match kind.text?.bind BuilderKind.ofName? with
  | some kind => pure (.newBuilder kind)
  | none => throw .missingMember

/-- A call of the connection without parameters. -/
def plainOf (a : Arguments) (call : ConnectionCall) : Except Fault ConnectionCall := do
  let _ ← a.bind [] 0
  pure call

/-- The calls of the driver, which takes values in order only. -/
def ofDriver (name : String) (a : Arguments) : Option (Except Fault ConnectionCall) :=
  match name with
  | "driver.execute" => some do
    let values ← a.bind ["sql", "params"] 1
    pure (.driverExecute (orElse values 0 .null) (orElse values 1 .null))
  | "driver.quote" => some do
    pure (.driverQuote (orElse (← a.bind ["value"] 1) 0 .null))
  | "driver.begin_transaction" => some (plainOf a .driverBegin)
  | "driver.commit" => some (plainOf a .driverCommit)
  | "driver.rollback" => some (plainOf a .driverRollback)
  | "driver.close" => some (plainOf a .close)
  | "driver.last_insert_id" => some (plainOf a .driverInsertId)
  | _ => none

/-- The calls of what a builder works with. Nothing depends on where they are made. -/
def ofConnection (name : String) (a : Arguments) : Option (Except Fault ConnectionCall) :=
  match name with
  | "new_builder" => some do newBuilder (orElse (← a.bind ["kind"] 1) 0 .null)
  | "in_transaction" => some (pure .inTransaction)
  | "conn.close" => some (pure .close)
  | "adapter.wrap_sanitizer" => some do
    pure (.identifier (orElse (← a.bind ["value"] 1) 0 .null))
  | "adapter.wrap_table" => some do
    pure (.tableName (orElse (← a.bind ["table"] 1) 0 .null))
  | "adapter.array_str" => some do
    let values ← a.bind ["pieces", "glue", "wrap"] 1
    pure (.nameList (orElse values 0 .null) (orElse values 1 (.text ", ")) (orElse values 2 (.bool true)))
  | "adapter.raw_bindings" => some do
    pure (.rawBindings (orElse (← a.bind ["pieces"] 1) 0 .null))
  | "events.register_event" => some do
    let values ← a.bind ["event", "action", "table"] 2
    pure (.registerHook (orElse values 0 .null) (orElse values 1 .null) (orElse values 2 .null))
  | "events.remove_event" => some do
    let values ← a.bind ["event", "table"] 1
    pure (.removeHook (orElse values 0 .null) (orElse values 1 .null))
  | "events.get_event" => some do
    let values ← a.bind ["event", "table"] 1
    pure (.findHook (orElse values 0 .null) (orElse values 1 .null))
  | "events.dump" => some (pure .hooks)
  | name => ofDriver name ⟨a.inOrder, []⟩

/-- The call of that name on a builder with the given role. -/
def ofRole (role : BuilderRole) (name : String) (a : Arguments) : Except Fault Call :=
  match name with
  | "compile" => match a.inOrder with
    | [] => pure (.compile (.text "select") [])
    | kind :: extra => pure (.compile kind extra)
  | "last_query" => pure (.connection .lastQuery)
  | "last_raw_sql" => pure (.connection .lastText)
  | name => match ofBuilder role name a with
    | some call => do pure (.builder (← call))
    | none => throw .missingMember

/-- Why a call of a builder fails on anything else. What a hook is told has a query, which cannot be called. -/
def refusal (target : Value) (name : String) (a : Arguments) : Fault :=
  match target, name with
  | .occasion, "query" => .typeMismatch
  | _, "events.fire" => match EventKind.ofValue (a.inOrder.head?.getD .null) with
    | .ok _ => .missingMember
    | .error fault => fault
  | _, _ => .missingMember

end Call

end SqlBuilder
