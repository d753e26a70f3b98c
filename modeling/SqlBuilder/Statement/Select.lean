import SqlBuilder.Statement.Clause

/-!
Projections in writing. Text and values are put together in one pass, so the values stand in the order
of their placeholders.
-/

namespace SqlBuilder

namespace Clauses

/-- The words that make rows distinct. -/
def distinctClause (d : Dialect) (c : Clauses) : Except Fault Query := do
  let word : Query := .plain (if c.distincts.isEmpty then "" else "DISTINCT")
  if c.distinctOn.isEmpty then pure word
  else if d.hasDistinctOn then
    pure (.plain "DISTINCT ON " ++ (← Field.renderAll d c.distinctOn).enclosed)
  else throw (.sql (.distinctOnUnsupported d.engine))

/-- What is projected: the distinct entries first, and everything if nothing is declared. -/
def projection (c : Clauses) : List Field :=
  let fields := c.distincts ++ c.selects
  if fields.isEmpty then [.plain (.text "*")] else fields

/-- The projection without what it is united with. -/
def select (d : Dialect) (c : Clauses) : Except Fault Query := do
  let distinct ← c.distinctClause d
  let tables ← c.tables.mapM fun table => unlessCallable table (SqlBuilder.tableClause d c.aliases table)
  let qualifier ← qualifierOf c.aliases c.tables
  let joins ← Join.clause d c.joins
  let wheres ← Condition.clause d qualifier "WHERE" c.wheres
  let groups ← groupClause d c.groupBys
  let havings ← Condition.clause d qualifier "HAVING" c.havings
  let orders ← OrderTerm.clause d c.orderBys
  let fields ← Field.renderAll d c.projection
  if c.tables.any Value.isCallable then throw .typeMismatch
  pure (Query.clauses ([
    .plain "SELECT", distinct, .plain (← c.top d), fields,
    .plain (if c.tables.isEmpty then "" else "FROM"), Query.joined "," tables,
    joins, wheres, groups, havings, orders] ++ (← c.pages d) ++ [.plain (← c.lock d)]))

end Clauses

namespace UnionKind

/-- The words between two united projections. -/
def words (kind : UnionKind) : String :=
  " UNION " ++ (if kind = .unmarked then "" else kind.name ++ " ")

end UnionKind

namespace SelectTree

mutual

def render (d : Dialect) : SelectTree → Except Fault Query
  | .mk clauses members => do
    let own ← clauses.select d
    if members.isEmpty then pure own
    else pure (own.enclosed ++ (← renderMembers d members))

/-- The united projections, each between parentheses behind its words. -/
def renderMembers (d : Dialect) : List (UnionKind × SelectTree) → Except Fault Query
  | [] => pure (.plain "")
  | (kind, member) :: rest => do
    let front ← render d member
    let back ← renderMembers d rest
    pure (.plain kind.words ++ front.enclosed ++ back)

end

end SelectTree

end SqlBuilder
