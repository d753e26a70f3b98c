import SqlBuilder.Session
import SqlBuilder.Statement.Modify
import SqlBuilder.Statement.Select

/-!
From drafts to statements. The scripts of groups are run, each on a builder of its own, and the builders of
joins and unions are replaced by what they declare. Everything is taken in the order in which it is written,
and a part that cannot be written fails before the scripts behind it run. A script may change the very draft
that is being compiled, so each clause is read when its turn has come, and lists of conditions, joins and
unions entry by entry.
-/

namespace SqlBuilder

namespace Resolve

variable {α β : Type}

/-- No list grows by more than this while it is read. -/
def maxEntries : Nat := 10000

/-- The entries of a list in a draft, each made into something before the next one is read, from a place on.
A list that is empty at first stays so. -/
def eachFrom (list : Draft → Option (List α)) (draft : Nat) (make : Nat → α → Act β) : Nat → Nat → Act (List β)
  | 0, _ => throw .tooDeep
  | fuel + 1, place => do
    match ((list (← Act.draftAt draft)).getD [])[place]? with
    | none => pure []
    | some entry => do
      let made ← make place entry
      let rest ← eachFrom list draft make fuel (place + 1)
      pure (made :: rest)

/-- The entries of a list in a draft. It may grow while it is read, but not without end. -/
def each (list : Draft → Option (List α)) (draft : Nat) (make : Nat → α → Act β) : Act (List β) := do
  let declared := ((list (← Act.draftAt draft)).getD []).length
  eachFrom list draft make (declared + maxEntries) 0

/-- The joiner of a condition. The first one must be a text. -/
def joint (isFirst : Bool) (c : Criterion) : Except Fault Joint :=
  match c.joiner with
  | .text joiner => pure ⟨joiner, c.opensOn⟩
  | _ => if isFirst then throw .typeMismatch else pure ⟨"", c.opensOn⟩

/-- The joiner cannot be written. That is found out only when all conditions have been. -/
def isUnwritable (c : Criterion) : Bool := !c.joiner.isText && c.joiner.isTruthy

/-- A condition as it was declared. The members of a group come from its script. -/
def criterion (members : Nat → Act (List Condition)) (isFirst : Bool) (c : Criterion) : Act Condition := do
  let joint ← Act.lift (joint isFirst c)
  match c.columns with
  | some names => pure (.columns joint names)
  | none =>
    if c.key.isCallable && c.operand.isNull then
      match c.key with
      | .group script => pure (.group joint (← members script))
      | .hook _ _ => throw .missingMember
      | _ => throw .typeMismatch
    else pure (.test joint c.key c.operator c.operand)

/-- Conditions as they were declared, each checked before the next one is looked at. -/
def criteria (members : Nat → Act (List Condition)) (qualifier : Option String) (isBound : Bool)
    (list : Draft → Option (List Criterion)) (draft : Nat) : Act (List Condition) := do
  let made ← each list draft fun place c => do
    let isFirst := place = 0
    let condition ← criterion members isFirst c
    Act.check (condition.pieces (← Act.dialect) qualifier isBound isFirst)
    pure (condition, isUnwritable c)
  if made.any (·.2) then throw .typeMismatch
  pure (made.map (·.1))

/-- The conditions that the script of a group declares. -/
def members : Nat → Nat → Act (List Condition)
  | 0, _ => throw .tooDeep
  | depth + 1, script => do
    let nested ← Act.newBuilder .group
    Act.fillBuilder script nested
    criteria (members depth) none true (·.criteria) (← Act.draftOf nested)

/-- A join with the conditions that its builder has declared. -/
def join (depth : Nat) (j : DraftJoin) : Act Join := do
  Act.check (unlessCallable j.table (Join.tableClause (← Act.dialect) j.table))
  let conditions ← j.builder.mapM fun id => do
    criteria (members depth) none false (·.criteria) (← Act.draftOf id)
  let .text kind := j.kind | throw .missingMember
  Act.check (requireTable j.table)
  pure { kind, table := j.table, conditions }

def joins (depth draft : Nat) : Act (List Join) := each (·.joins) draft fun _ j => join depth j

/-- The conditions of a clause whose columns get the qualifier. -/
def bound (depth : Nat) (qualifier : Option String) (list : Draft → Option (List Criterion)) (draft : Nat) :
    Act (List Condition) :=
  criteria (members depth) qualifier true list draft

def groupBys (draft : Nat) : Act (List Value) := do
  let fields := (← Act.draftAt draft).groupBys.getD []
  Act.check (groupClause (← Act.dialect) fields)
  pure fields

def orderBys (draft : Nat) : Act (List OrderTerm) := do
  let terms := (← Act.draftAt draft).orderBys.getD []
  Act.check (OrderTerm.clause (← Act.dialect) terms)
  pure terms

/-- A number of rows, unless it is absent. -/
def number (declared : Option Value) : Option Value := declared.filter fun v => !v.isNull

/-- The clauses with those that are read last: the numbers of rows and the locks. -/
def withPages (c : Clauses) (d : Draft) : Clauses :=
  { c with
    limit := number d.limit
    offset := number d.offset
    fetchNext := number d.fetchNext
    locks := d.locks.getD [] }

/-- The clauses that are read first, with nothing in the others. -/
def opening (d : Draft) : Clauses where
  distinctOn := d.distinctOn.getD []
  distincts := d.distincts.getD []
  selects := d.selects.getD []
  tables := d.tables.toList
  aliases := d.aliases.getD []
  joins := []
  wheres := []
  groupBys := []
  havings := []
  orderBys := []
  limit := none
  offset := none
  fetchNext := none
  locks := []
  onDuplicate := d.onDuplicate

/-- The clauses of a projection. -/
def selectClauses (depth draft : Nat) : Act Clauses := do
  let dialect ← Act.dialect
  let own := opening (← Act.draftAt draft)
  Act.check (own.distinctClause dialect)
  Act.check (own.tables.mapM fun table => unlessCallable table (tableClause dialect own.aliases table))
  let qualifier ← Act.lift (qualifierOf own.aliases own.tables)
  let joins ← joins depth draft
  let wheres ← bound depth qualifier (·.wheres) draft
  let groupBys ← groupBys draft
  let havings ← bound depth qualifier (·.havings) draft
  let orderBys ← orderBys draft
  let clauses := withPages { own with joins, wheres, groupBys, havings, orderBys } (← Act.draftAt draft)
  Act.check (clauses.select dialect)
  pure clauses

/-- The projection of a builder with those that it is united with. -/
def select : Nat → Nat → Act SelectTree
  | 0, _ => throw .tooDeep
  | depth + 1, id => do
    let draft ← Act.draftOf id
    let clauses ← selectClauses depth draft
    let members ← each (·.unions) draft fun _ union => do pure (union.kind, ← select depth union.builder)
    pure (.mk clauses members)

/-- The clauses of an update. -/
def updateClauses (depth draft : Nat) (data : Value) : Act Clauses := do
  let dialect ← Act.dialect
  let own := opening (← Act.draftAt draft)
  if !data.isTruthy then throw (.sql .noData)
  let table ← Act.lift own.target
  let qualifier ← Act.lift (aliasOf? own.aliases table)
  Act.check (unlessCallable table (tableClause dialect own.aliases table))
  let joins ← joins depth draft
  let .map entries := data | throw .missingMember
  Act.check (assignments dialect entries)
  let wheres ← bound depth qualifier (·.wheres) draft
  let groupBys ← groupBys draft
  let orderBys ← orderBys draft
  pure (withPages { own with joins, wheres, groupBys, orderBys } (← Act.draftAt draft))

/-- The clauses of a deletion. -/
def deleteClauses (depth draft : Nat) : Act Clauses := do
  let own := opening (← Act.draftAt draft)
  Act.check own.target
  let joins ← joins depth draft
  let wheres ← bound depth none (·.wheres) draft
  let groupBys ← groupBys draft
  let orderBys ← orderBys draft
  pure (withPages { own with joins, wheres, groupBys, orderBys } (← Act.draftAt draft))

end Resolve

/-- What a draft is compiled to. -/
inductive StatementRequest where
  | select
  | insert (verb : InsertVerb) (data : Value)
  | update (data : Value)
  | delete (columns : Value)
  /-- The conditions alone, with operands that are bound or that are identifiers. -/
  | conditions (isBound : Bool)

namespace StatementRequest

/-- A request by its name and what belongs to it. -/
def ofArguments (kind : Value) (extra : List Value) : Except Fault StatementRequest := do
  let name ← kind.written
  match Text.lower name, extra with
  | "select", [] => pure .select
  | "insert", [data] => pure (.insert .insert data)
  | "insertignore", [data] => pure (.insert .insertIgnore data)
  | "replace", [data] => pure (.insert .replace data)
  | "update", [data] => pure (.update data)
  | "delete", [] => pure (.delete .null)
  | "delete", [columns] => pure (.delete columns)
  | "criteriaonly", [] => pure (.conditions true)
  | "criteriaonly", [flag] => pure (.conditions flag.isTruthy)
  | lowered, _ =>
    if ["select", "insert", "insertignore", "replace", "update", "delete", "criteriaonly"].contains lowered
    then throw .typeMismatch
    else throw (.sql (.unknownKind name))

end StatementRequest

/-- The statement that a builder stands for, in the dialect of the connection. -/
def compile (id : Nat) (request : StatementRequest) : Act Query := do
  let dialect ← Act.dialect
  let depth := (← read).depth
  let draft ← Act.draftOf id
  match request with
  | .select => do Act.lift ((← Resolve.select depth id).render dialect)
  | .insert verb data => do Act.lift ((Resolve.opening (← Act.draftAt draft)).insert dialect verb data)
  | .update data => do Act.lift ((← Resolve.updateClauses depth draft data).update dialect data)
  | .delete columns => do Act.lift ((← Resolve.deleteClauses depth draft).delete dialect columns)
  | .conditions isBound => do
    let conditions ← Resolve.criteria (Resolve.members depth) none isBound (·.criteria) draft
    Act.lift (Condition.expression dialect none isBound conditions)

end SqlBuilder
