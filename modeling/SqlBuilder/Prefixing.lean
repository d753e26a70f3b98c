import SqlBuilder.Value

/-!
The prefix of a connection in front of table names. Where a value may name a column, only a name with
a qualifier is taken for one that begins with a table.
-/

namespace SqlBuilder

/-- Which names get the prefix. -/
inductive NameScope where
  /-- Every name is the name of a table. -/
  | tables
  /-- A name with a dot begins with a table. -/
  | columns
  deriving DecidableEq, Repr

namespace NameScope

/-- The name with something in front of it, if the scope holds it. -/
def lead (scope : NameScope) (front : String) : Value → Value
  | .text s => if scope = .tables || s.toList.contains '.' then .text (front ++ s) else .text s
  | v => v

/-- The value with the prefix of the connection. An empty prefix is none. -/
def addPrefixOne (scope : NameScope) (front : Option String) (v : Value) : Value :=
  match front with
  | none => v
  | some "" => v
  | some front => scope.lead front v

/-- The names that a value holds with the prefix: its items, its keys, or the value itself. -/
def addPrefix (scope : NameScope) (front : Option String) (v : Value) : Value :=
  match v with
  | .map entries =>
    .map (Value.entriesOf (entries.map fun (key, x) => (scope.addPrefixOne front key, x)))
  | .list items => .list (items.map (scope.addPrefixOne front))
  | .tuple items => .tuple (items.map (scope.addPrefixOne front))
  | v => scope.addPrefixOne front v

end NameScope

end SqlBuilder
