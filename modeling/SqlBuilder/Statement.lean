import SqlBuilder.Value

/-!
Statements as trees, before they are written in a dialect. Nothing in a tree can be called any more:
groups of conditions hold their members, joins their conditions, and unions the trees that they unite.
-/

namespace SqlBuilder

/-- What links a condition to those in front of it. -/
structure Joint where
  /-- Words like `AND` or `OR NOT`. -/
  joiner : String
  /-- The expression opens with `ON` where this is its first condition. -/
  opensOn : Bool
  deriving DecidableEq, Repr

inductive Condition where
  /-- A comparison. Without an operand and an operator a fragment of SQL stands alone. -/
  | test (joint : Joint) (key operator operand : Value)
  /-- Conditions between parentheses. -/
  | group (joint : Joint) (members : List Condition)
  /-- The columns that two tables have in common. -/
  | columns (joint : Joint) (names : List Value)

/-- An entry of a projection. -/
inductive Field where
  | plain (name : Value)
  | aliased (name shortName : Value)

namespace Field

/-- What the entry projects. -/
def name : Field → Value
  | plain name => name
  | aliased name _ => name

/-- The entry as a value: a pair if it has an alias. -/
def toValue : Field → Value
  | plain name => name
  | aliased name shortName => .tuple [name, shortName]

end Field

structure Join where
  /-- Words like `left`. -/
  kind : String
  /-- A name, a pair of a name and an alias, or a fragment of SQL. -/
  table : Value
  conditions : Option (List Condition)

structure OrderTerm where
  field : Value
  direction : String

/-- How a union treats rows that occur twice. -/
inductive UnionKind where
  | unmarked
  | distinct
  | all
  deriving DecidableEq, Repr

namespace UnionKind

def name : UnionKind → String
  | unmarked => ""
  | distinct => "DISTINCT"
  | all => "ALL"

def ofName? (s : String) : Option UnionKind :=
  [unmarked, distinct, all].find? fun kind => kind.name == s

end UnionKind

/-- The clauses of one statement. A kind of statement reads those that it has a place for. -/
structure Clauses where
  distinctOn : List Field
  distincts : List Field
  selects : List Field
  tables : List Value
  /-- The aliases of tables, by table. -/
  aliases : List (Value × String)
  joins : List Join
  wheres : List Condition
  groupBys : List Value
  havings : List Condition
  orderBys : List OrderTerm
  limit : Option Value
  offset : Option Value
  fetchNext : Option Value
  locks : List Value
  /-- What an insertion changes in a row that is already there. -/
  onDuplicate : Option (List (Value × Value))

/-- A projection of rows, with those it is united with. -/
inductive SelectTree where
  | mk (clauses : Clauses) (members : List (UnionKind × SelectTree))

end SqlBuilder
