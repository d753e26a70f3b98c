import SqlBuilder.Session.Resolve

/-!
What builders declare. Each declaration changes the draft of one builder. Where a builder overwrites, a
declaration takes the place of the first earlier one with the same key; to know what a group declares its
script is run on a builder that is thrown away.
-/

namespace SqlBuilder

namespace Declare

/-- Runs what can be called on a builder. -/
def callOn (callable : Value) (id : Nat) : Act Unit :=
  match callable with
  | .group script => Act.fillBuilder script id
  | .hook _ _ => throw .missingMember
  | _ => throw .typeMismatch

/-- A list of entries in a draft, with what an entry is known by. -/
structure EntryList (α : Type) where
  get : Draft → Option (List α)
  set : Option (List α) → Draft → Draft
  key : α → Value

namespace EntryList

variable {α : Type}

def keys (entries : EntryList α) (d : Draft) : List Value := ((entries.get d).getD []).map entries.key

def wheres : EntryList Criterion := ⟨(·.wheres), fun xs d => { d with wheres := xs }, (·.key)⟩

def havings : EntryList Criterion := ⟨(·.havings), fun xs d => { d with havings := xs }, (·.key)⟩

def joins : EntryList DraftJoin := ⟨(·.joins), fun xs d => { d with joins := xs }, (·.table)⟩

def orderBys : EntryList OrderTerm := ⟨(·.orderBys), fun xs d => { d with orderBys := xs }, (·.field)⟩

/-- The place of the first entry with the key, or of the first group that declares it, from a place on. The
list is read entry by entry, since the script of a group may change it. -/
def placeFrom (entries : EntryList α) (draft : Nat) (key : Value) : Nat → Nat → Act (Option Nat)
  | 0, _ => throw .tooDeep
  | fuel + 1, place => do
    match (entries.keys (← Act.draftAt draft))[place]? with
    | none => pure none
    | some current => do
      if current.isCallable then
        let scratch ← Act.newBuilder .query
        callOn current scratch
        if (entries.keys (← Act.draft scratch)).any fun k => k.same key then return some place
      if current.same key then return some place
      placeFrom entries draft key fuel (place + 1)

/-- The entry at a place is dropped, if it is still there. -/
def dropAt (entries : EntryList α) (draft place : Nat) : Act Unit := do
  if (entries.keys (← Act.draftAt draft)).length ≤ place then throw .outOfRange
  Act.modifyDraftAt draft fun d => entries.set ((entries.get d).map fun xs => xs.eraseIdx place) d

/-- Where the builder overwrites, the entry that a new one with the key takes the place of is dropped. The list
may grow while it is read, but not without end. -/
def dropReplaced (entries : EntryList α) (id : Nat) (key : Value) : Act Unit := do
  if (← Act.builder id).overwriting.isTruthy then
    let draft ← Act.draftOf id
    let declared := (entries.keys (← Act.draftAt draft)).length
    if let some place ← entries.placeFrom draft key (declared + Resolve.maxEntries) 0 then
      entries.dropAt draft place

/-- One more entry at the end. -/
def push (entries : EntryList α) (id : Nat) (entry : α) : Act Unit :=
  Act.modifyDraft id fun d => entries.set (extended (entries.get d) [entry]) d

end EntryList

/-- A value with the prefix of the builder. -/
def withLead (id : Nat) (scope : NameScope) (v : Value) : Act Value := do
  pure (scope.addPrefix (← Act.builder id).lead v)

/-- The operator and the operand of a comparison. One value alone is compared for equality, and a truth
value is compared as a number. -/
def operatorAndOperand (operator operand : Option Value) : Value × Value :=
  let (operator, operand) := match operator, operand with
    | operator, some operand => (operator.getD .null, operand)
    | some value, none => (.text "=", value)
    | none, none => (.null, .null)
  (operator, match operand with
    | .bool b => .int (if b then 1 else 0)
    | operand => operand)

/-- One more condition on the rows. The builder of a group collects its conditions without overwriting. -/
def condition (id : Nat) (joiner : String) (key operator operand : Value) : Act Unit := do
  let key ← withLead id .columns key
  let entry : Criterion := { key, operator, operand, joiner := .text joiner }
  if (← Act.builder id).role = .group then
    Act.modifyDraft id fun d => { d with criteria := extended d.criteria [entry] }
  else
    EntryList.wheres.dropReplaced id key
    EntryList.wheres.push id entry

/-- One more condition on the groups of rows. -/
def having (id : Nat) (key operator operand joiner : Value) : Act Unit := do
  let key ← withLead id .columns key
  EntryList.havings.dropReplaced id key
  EntryList.havings.push id { key, operator, operand, joiner }

/-- One more condition of a join. Both sides are columns. -/
def on (id : Nat) (key operator operand joiner : Value) : Act Unit := do
  let key ← withLead id .columns key
  let operand ← withLead id .columns operand
  Act.modifyDraft id fun d =>
    { d with criteria := extended d.criteria [{ key, operator, operand, joiner, opensOn := true }] }

/-- The columns that the tables of a join have in common. -/
def usingColumns (id : Nat) (columns : Value) : Act Unit := do
  let some names := columns.elements? | throw .typeMismatch
  let lead := (← Act.builder id).lead
  let names := names.map (NameScope.columns.addPrefixOne lead)
  Act.modifyDraft id fun d =>
    { d with
      criteria := extended d.criteria
        [⟨.null, .null, .null, .text "AND USING", false, some names⟩] }

/-- A join with the conditions of the given builder. -/
def pushJoin (id : Nat) (kind table : Value) (builder : Option Nat) : Act Unit := do
  let table ← withLead id .tables table
  EntryList.joins.dropReplaced id table
  EntryList.joins.push id { kind, table, builder }

/-- A join on a comparison of columns, on what a script declares, or on nothing. -/
def join (id : Nat) (table key operator operand kind : Value) : Act Unit := do
  if key.isNull then pushJoin id kind table none
  else
    let conditions ← Act.newBuilder .join
    if key.isCallable then callOn key conditions
    else on conditions key operator operand (.text "AND")
    pushJoin id kind table (some conditions)

/-- A join on columns that both tables have. -/
def joinUsing (id : Nat) (table fields kind : Value) : Act Unit := do
  let conditions ← Act.newBuilder .join
  usingColumns conditions (.list (fields.items?.getD [fields]))
  pushJoin id kind table (some conditions)

/-- The fields to order by, each with its direction. -/
def orderEntries (fields direction : Value) : List (Value × Value) :=
  (fields.items?.getD [fields]).flatMap fun
    | .map entries => entries
    | field => [(field, direction)]

/-- One more field to order by. -/
def orderByOne (id : Nat) (field direction : Value) : Act Unit := do
  let field ← withLead id .columns field
  EntryList.orderBys.dropReplaced id field
  Act.modifyDraft id fun d => { d with orderBys := extended d.orderBys [] }
  let .text direction := direction | throw .missingMember
  EntryList.orderBys.push id { field, direction := Text.upper direction }

def orderBy (id : Nat) (fields direction : Value) : Act Unit :=
  (orderEntries fields direction).forM fun (field, direction) => orderByOne id field direction

/-- The kind of union that a value names, in whatever case. -/
def unionKind (v : Value) : Except Fault UnionKind :=
  let named (s : String) : Except Fault UnionKind :=
    match UnionKind.ofName? s with
    | some kind => pure kind
    | none => throw (.value (.unknownUnion (Value.text s).shown))
  match v with
  | .text s => named (Text.upper s)
  | v => throw (.value (.unknownUnion v.shown))

/-- One more union. What the member was united with so far moves to this builder. -/
def union (id : Nat) (member kind : Value) : Act Unit := do
  let kind ← Act.lift (unionKind kind)
  let .builder _ member := member | throw .missingMember
  let moved := (← Act.draft member).unions.getD []
  unless moved.isEmpty do
    Act.modifyDraft id fun d => { d with unions := some moved }
    Act.modifyDraft member fun d => { d with unions := none }
  Act.modifyDraft id fun d => { d with unions := extended d.unions [{ kind, builder := member }] }

/-- An empty builder for the same purpose. The builders of a transaction share its scope. -/
def newQuery (id : Nat) : Act Nat := do Act.newBuilder (← Act.builder id).role

/-- The tables of a builder. -/
def setTables (id : Nat) (tables : List Value) : Act Unit := do
  Act.drafting id (Draft.declareTables (← Act.builder id).lead tables)

/-- A new builder for the tables; without tables this builder, which has none from then on. -/
def table (id : Nat) (tables : List Value) : Act Nat := do
  if Draft.clearsTables tables then
    setTables id tables
    pure id
  else
    let fresh ← newQuery id
    setTables fresh tables
    pure fresh

/-- A builder that declares the same and changes on its own. The builders of joins are copied too, but not
those of unions. -/
def clone : Nat → Nat → Act Nat
  | 0, _ => throw .tooDeep
  | depth + 1, id => do
    let b ← Act.builder id
    let d ← Act.draft id
    let joins ← d.joins.mapM fun joins => joins.mapM fun j => do
      pure { j with builder := ← j.builder.mapM (clone depth) }
    let draft ← Act.addDraft { d with joins }
    Act.addBuilder { b with draft, pending := none }

/-- The projection of a builder as a fragment of SQL between parentheses, with its alias. -/
def subQuery (member shortName : Value) : Act Value := do
  let .builder _ member := member | throw .missingMember
  let q ← compile member .select
  if shortName.isNull then pure (.raw (.text q.enclosed.sql) q.bindings)
  else
    let name ← Act.lift ((← Act.dialect).identifier shortName)
    pure (.raw (.text (q.enclosed.sql ++ " AS " ++ name)) q.bindings)

/-- What a builder declares as a value, with everything that its draft refers to. -/
def view : Nat → Nat → Act Value
  | 0, _ => throw .tooDeep
  | depth + 1, id => do
    let d ← Act.draft id
    let joins ← (d.joins.getD []).mapM fun j => do pure ((← j.builder.mapM (view depth)).getD .null)
    let unions ← (d.unions.getD []).mapM fun u => view depth u.builder
    pure (d.view joins unions)

end Declare

end SqlBuilder
