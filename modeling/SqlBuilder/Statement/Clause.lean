import SqlBuilder.Statement.Condition
import SqlBuilder.Text.Case

/-!
The clauses that statements are made of, each a fragment of SQL with its values. A clause that has
nothing to say is empty text.
-/

namespace SqlBuilder

namespace Field

/-- The values of a fragment of SQL; a name has none. -/
def bindings (f : Field) : List Value := f.name.fragmentBindings

def render (d : Dialect) : Field → Except Fault Query
  | plain name => do pure ⟨← d.identifier name, (plain name).bindings⟩
  | aliased name shortName => do
    let text ← d.identifier name
    pure ⟨text ++ " AS " ++ (← d.identifier shortName), (plain name).bindings⟩

/-- The entries of a projection with commas in between. -/
def renderAll (d : Dialect) (fields : List Field) : Except Fault Query := do
  pure (Query.joined ", " (← fields.mapM (render d)))

end Field

/-- A clause for a table. What can be called is no table, but that is found out only when everything else has
been written. -/
def unlessCallable (table : Value) (clause : Except Fault Query) : Except Fault Query :=
  if table.isCallable then pure (.plain "") else clause

/-- What can be called is no table. -/
def requireTable (table : Value) : Except Fault Unit := if table.isCallable then throw .missingMember else pure ()

namespace Join

/-- What is joined. A pair is a name with its alias, and only their texts are written. -/
def tableClause (d : Dialect) : Value → Except Fault Query
  | .tuple [name, shortName] => do
    let text ← d.identifier name
    pure (.plain (text ++ " AS " ++ (← d.identifier shortName)))
  | .tuple items =>
    throw (.value (if items.length < 2 then .tooFewParts items.length else .tooManyParts))
  | table => do pure ⟨← d.identifier table, table.fragmentBindings⟩

/-- The conditions of a join, whose operands are identifiers. -/
def conditionClause (d : Dialect) : Option (List Condition) → Except Fault Query
  | none => pure (.plain "")
  | some conditions => Condition.expression d none false conditions

def render (d : Dialect) (j : Join) : Except Fault Query := do
  let table ← unlessCallable j.table (tableClause d j.table)
  let conditions ← conditionClause d j.conditions
  requireTable j.table
  pure (Query.clauses [.plain (Text.upper j.kind), .plain "JOIN", table, conditions])

/-- All joins of a statement. -/
def clause (d : Dialect) (joins : List Join) : Except Fault Query := do
  pure (Query.clauses (← joins.mapM (render d)))

end Join

namespace OrderTerm

def render (d : Dialect) (term : OrderTerm) : Except Fault Query := do
  let field ← d.identifier term.field
  pure ⟨field ++ " " ++ term.direction, (Field.plain term.field).bindings⟩

def clause (d : Dialect) (terms : List OrderTerm) : Except Fault Query := do
  let parts ← terms.mapM (render d)
  pure (if terms.isEmpty then .plain "" else .plain "ORDER BY " ++ Query.joined ", " parts)

end OrderTerm

/-- The columns by which rows are grouped. -/
def groupClause (d : Dialect) (fields : List Value) : Except Fault Query := do
  let columns ← Field.renderAll d (fields.map Field.plain)
  pure (if fields.isEmpty then .plain "" else .plain "GROUP BY " ++ columns)

/-- The alias that is declared for a table. A fragment of SQL has none, and only what can be a key can be
looked up. -/
def aliasOf? (aliases : List (Value × String)) (table : Value) : Except Fault (Option String) :=
  if table.isRaw then pure none
  else if table.isKey then pure (Value.lookup? table aliases)
  else throw .typeMismatch

/-- A table that a statement reads, with its alias. -/
def tableClause (d : Dialect) (aliases : List (Value × String)) (table : Value) : Except Fault Query := do
  if table.isRaw then fragmentOf table
  else match ← aliasOf? aliases table with
    | none => do pure (.plain (← d.tableName table))
    | some shortName => do
      let name ← d.tableName table
      pure (.plain (name ++ " AS " ++ (← d.tableName (.text (Text.lower shortName)))))

/-- The qualifier of columns that have none of their own: the alias of the last table. -/
def qualifierOf (aliases : List (Value × String)) (tables : List Value) : Except Fault (Option String) :=
  match tables.getLast? with
  | none => pure none
  | some table => aliasOf? aliases table

namespace Clauses

/-- A word with a number behind it, or nothing if there is no number. -/
def counted (before : String) (number : Option Value) (after : String) : Except Fault String :=
  match number with
  | none => pure ""
  | some v => do pure (before ++ (← v.written) ++ after)

/-- What stands behind `SELECT` about the number of rows. -/
def top (d : Dialect) (c : Clauses) : Except Fault String :=
  match d.paging with
  | .limitOffset => pure ""
  | .topFetch => counted "TOP " c.limit ""

/-- What stands at the end of a statement about the number of rows. -/
def pages (d : Dialect) (c : Clauses) : Except Fault (List Query) := do
  match d.paging with
  | .limitOffset =>
    pure [.plain (← counted "LIMIT " c.limit ""), .plain (← counted "OFFSET " c.offset "")]
  | .topFetch =>
    pure [.plain (← counted "OFFSET " c.offset " ROWS"),
      .plain (← counted "FETCH NEXT " c.fetchNext " ROWS ONLY")]

/-- The clause that locks the rows. The first one that was declared counts. -/
def lock (d : Dialect) (c : Clauses) : Except Fault String :=
  if d.locksRows then counted "FOR " c.locks.head? "" else pure ""

end Clauses

end SqlBuilder
