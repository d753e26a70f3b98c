import SqlBuilder.Statement.Clause

/-!
Statements that change rows, in writing.
-/

namespace SqlBuilder

/-- The verbs of an insertion. -/
inductive InsertVerb where
  | insert
  /-- Rows that are there already are skipped. -/
  | insertIgnore
  /-- Rows that are there already are replaced. -/
  | replace
  deriving DecidableEq, Repr

namespace InsertVerb

def words (d : Dialect) : InsertVerb → String
  | insert => "INSERT"
  | insertIgnore => d.ignoreVerb
  | replace => "REPLACE"

/-- The clause behind the values. -/
def suffix (d : Dialect) : InsertVerb → String
  | insertIgnore => d.ignoreClause
  | _ => ""

end InsertVerb

/-- Columns with their new values. The text of a key is written, not its values. -/
def assignments (d : Dialect) (data : List (Value × Value)) : Except Fault Query := do
  let parts ← data.mapM fun (key, v) => do
    pure (Query.plain ((← d.identifier key) ++ " = ") ++ (← operandOf v))
  pure (Query.joined ", " parts)

namespace Clauses

/-- The table that a statement changes, which is the last one declared. -/
def target (c : Clauses) : Except Fault Value :=
  match c.tables.getLast? with
  | none => throw (.sql .noTable)
  | some table => pure table

/-- What happens to rows that are there already, if anything was declared for them. -/
def duplicateClause (d : Dialect) (c : Clauses) : Except Fault Query :=
  match c.onDuplicate with
  | none => pure (.plain "")
  | some [] => throw (.sql .noData)
  | some data => do pure (.plain "ON DUPLICATE KEY UPDATE " ++ (← assignments d data))

/-- The table that a statement changes, where its alias has no place. -/
def targetName (d : Dialect) (table : Value) : Except Fault Query :=
  unlessCallable table do pure (.plain (← d.identifier table))

def insert (d : Dialect) (c : Clauses) (verb : InsertVerb) (data : Value) : Except Fault Query := do
  let table ← c.target
  let .map entries := data | throw .missingMember
  let values ← operandsOf (entries.map (·.2))
  let name ← targetName d table
  let columns ← nameList d (entries.map (·.1))
  let onDuplicate ← c.duplicateClause d
  requireTable table
  pure (Query.clauses [
    .plain (verb.words d ++ " INTO"), name, (Query.plain columns).enclosed, .plain "VALUES",
    values.enclosed, .plain (verb.suffix d), onDuplicate])

def update (d : Dialect) (c : Clauses) (data : Value) : Except Fault Query := do
  if !data.isTruthy then throw (.sql .noData)
  let table ← c.target
  let qualifier ← aliasOf? c.aliases table
  let name ← unlessCallable table (SqlBuilder.tableClause d c.aliases table)
  let joins ← Join.clause d c.joins
  let .map entries := data | throw .missingMember
  let changes ← assignments d entries
  let wheres ← Condition.clause d qualifier "WHERE" c.wheres
  let groups ← groupClause d c.groupBys
  let orders ← OrderTerm.clause d c.orderBys
  let pages ← c.pages d
  requireTable table
  pure (Query.clauses ([
    .plain "UPDATE", .plain name.sql, joins, .plain "SET " ++ changes, wheres, groups, orders] ++ pages))

/-- The columns of a deletion: whatever a walk over the value meets. -/
def deleteColumns (d : Dialect) (columns : Value) : Except Fault String :=
  if !columns.isTruthy then pure ""
  else match columns.elements? with
    | some names => nameList d names
    | none => throw .typeMismatch

def delete (d : Dialect) (c : Clauses) (columns : Value) : Except Fault Query := do
  let table ← c.target
  let joins ← Join.clause d c.joins
  let wheres ← Condition.clause d none "WHERE" c.wheres
  let groups ← groupClause d c.groupBys
  let orders ← OrderTerm.clause d c.orderBys
  let names ← deleteColumns d columns
  let name ← targetName d table
  let pages ← c.pages d
  requireTable table
  pure (Query.clauses ([
    .plain "DELETE", .plain names, .plain "FROM", name, joins, wheres, groups, orders] ++ pages))

end Clauses

end SqlBuilder
