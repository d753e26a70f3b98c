import SqlBuilder.Entries
import SqlBuilder.Prefixing
import SqlBuilder.Statement
import SqlBuilder.Text.Case

/-!
A statement while it is being declared. A draft keeps apart what was never declared and what was declared
empty. What it refers to is not resolved yet: groups are scripts, and the conditions of joins and the
members of unions are builders.
-/

namespace SqlBuilder

/-- A condition as it was declared. -/
structure Criterion where
  key : Value
  operator : Value
  operand : Value
  joiner : Value
  /-- The expression opens with `ON` where this is its first condition. -/
  opensOn : Bool := false
  /-- Columns that two tables have in common, in place of a comparison. -/
  columns : Option (List Value) := none

structure DraftJoin where
  kind : Value
  table : Value
  /-- The builder of the conditions. -/
  builder : Option Nat

structure DraftUnion where
  kind : UnionKind
  /-- The builder that is united. -/
  builder : Nat

/-- The tables of a draft. -/
inductive TableList where
  | undeclared
  /-- Declared to be none. -/
  | cleared
  | declared (tables : List Value)

namespace TableList

def toList : TableList → List Value
  | declared tables => tables
  | _ => []

end TableList

structure Draft where
  tables : TableList := .undeclared
  aliases : Option (List (Value × String)) := none
  selects : Option (List Field) := none
  distincts : Option (List Field) := none
  distinctOn : Option (List Field) := none
  wheres : Option (List Criterion) := none
  /-- The conditions of a join or of a group. -/
  criteria : Option (List Criterion) := none
  havings : Option (List Criterion) := none
  joins : Option (List DraftJoin) := none
  groupBys : Option (List Value) := none
  orderBys : Option (List OrderTerm) := none
  unions : Option (List DraftUnion) := none
  locks : Option (List Value) := none
  limit : Option Value := none
  offset : Option Value := none
  fetchNext : Option Value := none
  onDuplicate : Option (List (Value × Value)) := none
  deriving Inhabited

/-- The entries with more of them behind, declared if they were not. -/
def extended {α : Type} (declared : Option (List α)) (more : List α) : Option (List α) :=
  some (declared.getD [] ++ more)

/-- The items of the sequences among the values in place of the sequences. -/
def flattened (values : List Value) : List Value :=
  values.flatMap fun v => v.items?.getD [v]

/-- The fields that values declare: a mapping gives a field and its alias by entry. -/
def fieldsOf (lead : Option String) (values : List Value) : List Field :=
  (flattened values).flatMap fun
    | .map entries => entries.map fun (name, shortName) =>
      .aliased (NameScope.columns.addPrefix lead name) shortName
    | v => [.plain (NameScope.columns.addPrefix lead v)]

/-- A change to a draft. What was changed before a failure stays. -/
abbrev Drafting := ExceptT Fault (StateM Draft)

namespace Draft

/-- No table, or an absent one alone, clears the tables. -/
def clearsTables : List Value → Bool
  | [] => true
  | [v] => v.isNull
  | _ => false

/-- The table that an alias is for: the first one declared if none is named. -/
def aliasedTable (lead : Option String) (d : Draft) (table : Value) : Except Fault Value :=
  match table, d.tables.toList with
  | .null, first :: _ => pure first
  | table, _ => do
    let name ← if table.isTruthy then table.written else pure ""
    pure (.text (lead.getD "" ++ name))

/-- An alias for a table, in small letters. -/
def nameTable (lead : Option String) (shortName table : Value) : Drafting Unit := do
  let table ← (← get).aliasedTable lead table
  let .text name := shortName | throw .missingMember
  modify fun d => { d with aliases := extended d.aliases [] }
  unless table.isKey do throw .typeMismatch
  modify fun d =>
    { d with aliases := d.aliases.map (Value.insertEntry table (Text.lower name)) }

/-- The tables of the statement. A mapping declares a table and its alias by entry. -/
def declareTables (lead : Option String) (values : List Value) : Drafting Unit := do
  if clearsTables values then
    modify fun d => { d with tables := .cleared }
  else
    let names ← (flattened values).flatMapM fun
      | .map entries => entries.mapM fun (name, shortName) => do
        nameTable lead shortName name
        pure name
      | v => pure [v]
    modify fun d =>
      { d with tables := .declared (names.map fun name => NameScope.tables.addPrefixOne lead name) }

/-- Entries that take the place of those declared before, or follow them. -/
def placed {α : Type} (isOverwriting : Bool) (declared : Option (List α)) (more : List α) : Option (List α) :=
  if isOverwriting then some more else extended declared more

def select (lead : Option String) (isOverwriting : Bool) (values : List Value) (d : Draft) : Draft :=
  { d with selects := placed isOverwriting d.selects (fieldsOf lead values) }

def selectDistinct (lead : Option String) (isOverwriting : Bool) (values : List Value) (d : Draft) : Draft :=
  { d with distincts := placed isOverwriting d.distincts (fieldsOf lead values) }

def addDistinctOn (lead : Option String) (values : List Value) (d : Draft) : Draft :=
  { d with distinctOn := extended d.distinctOn (fieldsOf lead values) }

/-- Columns to group by: one, or the items of a sequence. -/
def groupBy (lead : Option String) (isOverwriting : Bool) (fields : Value) (d : Draft) : Draft :=
  let fields := NameScope.columns.addPrefix lead fields
  { d with groupBys := placed isOverwriting d.groupBys (fields.items?.getD [fields]) }

def lock (clause : Value) (d : Draft) : Draft := { d with locks := extended d.locks [clause] }

/-- Changes to a row that is there already. Later ones to the same column count. -/
def addOnDuplicate (data : Value) : Drafting Unit := do
  let (entries, fault) := Entries.update ((← get).onDuplicate.getD []) data
  modify fun d => { d with onDuplicate := some entries }
  if let some fault := fault then throw fault

/-- The alias of the table that was given one first. -/
def firstAlias (d : Draft) : Value :=
  match d.aliases with
  | some ((_, shortName) :: _) => .text shortName
  | _ => .null

/-- The table that was declared first, unless it is a fragment of SQL. -/
def firstTable (d : Draft) : Value :=
  match d.tables.toList with
  | table :: _ => if table.isRaw then .null else table
  | [] => .null

/-- The column under which a field appears in a result, unless it stands for many or has no name. -/
def resultColumn? : Field → Option (Value × Value)
  | .aliased (.text name) shortName => some (shortName, .text name)
  | .plain (.text name) =>
    let parts := Text.split '.' name
    if parts.contains "*" then none else some (.text (parts.getLast?.getD name), .text name)
  | _ => none

/-- The columns of the result with the fields that they show. -/
def resultColumns (d : Draft) : Except Fault Value := do
  let columns := (d.selects.getD []).filterMap resultColumn?
  if columns.all fun column => column.1.isKey then pure (.map (Value.entriesOf columns))
  else throw .typeMismatch

/-- The draft has clauses that make its rows other than those of its tables. -/
def shapesRows (d : Draft) : Bool :=
  !(d.groupBys.getD []).isEmpty || !(d.distincts.getD []).isEmpty || !(d.unions.getD []).isEmpty ||
    [d.limit, d.offset, d.fetchNext].any fun number => number.any fun v => !v.isNull

end Draft

/-! ### Drafts as values -/

namespace Criterion

/-- The condition as a value. -/
def toValue (c : Criterion) : Value :=
  .piece .condition [c.key, c.operator, c.operand, c.joiner, if c.opensOn then .text "ON" else .null,
    (c.columns.map Value.list).getD .null]

end Criterion

namespace Field

/-- The entry of a projection as a piece of a statement. -/
def toPiece : Field → Value
  | plain name => name
  | aliased name shortName => .piece .named [name, shortName]

end Field

namespace Draft

/-- What was declared, by the names of the clauses in their order. What joins and unions refer to is given. -/
def view (d : Draft) (joins unions : List Value) : Value :=
  let entry (name : String) (v : Option Value) : Option (Value × Value) := v.map fun v => (.text name, v)
  let list {α : Type} (f : α → Value) (items : Option (List α)) : Option Value :=
    items.map fun items => .list (items.map f)
  let tables : Option Value := match d.tables with
    | .undeclared => none
    | .cleared => some .null
    | .declared tables => some (.list tables)
  .map ([
    entry "aliases" (d.aliases.map fun entries => .map (entries.map fun entry => (entry.1, .text entry.2))),
    entry "criteria" (list Criterion.toValue d.criteria),
    entry "distinct_on" (list Field.toPiece d.distinctOn),
    entry "distincts" (list Field.toPiece d.distincts),
    entry "fetch_next" d.fetchNext,
    entry "for" (d.locks.map Value.list),
    entry "group_bys" (d.groupBys.map Value.list),
    entry "havings" (list Criterion.toValue d.havings),
    entry "joins" (d.joins.map fun declared => .list ((declared.zip joins).map fun (j, conditions) =>
      .piece .join [j.kind, j.table, conditions])),
    entry "limit" d.limit,
    entry "offset" d.offset,
    entry "onduplicate" (d.onDuplicate.map Value.map),
    entry "order_bys" (list (fun (o : OrderTerm) => .piece .ordered [o.field, .text o.direction]) d.orderBys),
    entry "selects" (list Field.toPiece d.selects),
    entry "tables" tables,
    entry "unions" (d.unions.map fun declared => .list ((declared.zip unions).map fun (u, member) =>
      .piece .union [.text u.kind.name, member])),
    entry "wheres" (list Criterion.toValue d.wheres)].filterMap id)

end Draft

end SqlBuilder
