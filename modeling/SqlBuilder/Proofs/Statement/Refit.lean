import SqlBuilder.Statement.Modify
import SqlBuilder.Statement.Select
import SqlBuilder.Proofs.Text.Avoids

/-!
What a statement tree holds besides its structure: the values that its placeholders stand for, and the texts that
are written as they are. A refit exchanges the former and leaves everything else in place. A vocabulary says
which texts and which fragments of SQL a tree may hold.
-/

namespace SqlBuilder

/-- Every kind of statement as a tree. -/
inductive StatementTree where
  | select (tree : SelectTree)
  | insert (clauses : Clauses) (verb : InsertVerb) (data : Value)
  | update (clauses : Clauses) (data : Value)
  | delete (clauses : Clauses) (columns : Value)
  /-- Conditions alone, with operands that are bound or that are identifiers. -/
  | conditions (isBound : Bool) (members : List Condition)

def StatementTree.render (d : Dialect) : StatementTree → Except Fault Query
  | select tree => tree.render d
  | insert clauses verb data => clauses.insert d verb data
  | update clauses data => clauses.update d data
  | delete clauses columns => clauses.delete d columns
  | conditions isBound members => Condition.expression d none isBound members

/-! ### Fragments of SQL -/

/-- A value is a fragment of SQL with a text, a fragment that has none, or no fragment. -/
theorem Value.raw_cases (v : Value) :
    (∃ s bindings, v = .raw (.text s) bindings) ∨
      (∃ content bindings, v = .raw content bindings ∧ content.text? = none) ∨ v.isRaw = false := by
  cases v with
  | raw content bindings =>
      cases h : content.text? with
      | none => exact .inr (.inl ⟨content, bindings, rfl, h⟩)
      | some s =>
          have hcontent : content = .text s := by
            cases content with
            | text t => rw [Option.some.inj h]
            | _ => exact absurd h (by simp [Value.text?])
          exact .inl ⟨s, bindings, by rw [hcontent]⟩
  | _ => exact .inr (.inr rfl)

theorem Value.fragmentBindings_of_not_raw {v : Value} (h : v.isRaw = false) : v.fragmentBindings = [] := by
  cases v with
  | raw content bindings => exact absurd h (by simp [Value.isRaw])
  | _ => rfl

theorem Value.items?_of_isRaw {v : Value} (h : v.isRaw = true) : v.items? = none := by
  cases v with
  | list items => exact absurd h (by simp [Value.isRaw])
  | tuple items => exact absurd h (by simp [Value.isRaw])
  | _ => rfl

theorem Value.isCallable_of_isRaw {v : Value} (h : v.isRaw = true) : v.isCallable = false := by
  cases v with
  | raw content bindings => rfl
  | _ => exact absurd h (by simp [Value.isRaw])

theorem Value.written_raw_text (s : String) (bindings : List Value) :
    (Value.raw (.text s) bindings).written = .ok s := by
  simp [Value.written, Value.written?, Value.text?, Pure.pure, Except.pure]

theorem Value.written_raw_of_not_text {content : Value} (h : content.text? = none) (bindings : List Value) :
    (Value.raw content bindings).written = .error .typeMismatch := by
  simp [Value.written, Value.written?, h]
  rfl

/-! ### Exchanging the values -/

/-- What is put in place of the values of a statement. -/
structure Refit where
  /-- In place of a fragment of SQL and its values. -/
  fragment : String → List Value → String × List Value
  /-- In place of a value that a placeholder stands for. -/
  bound : Value → Value
  /-- In place of an operand that is passed over: a fragment of SQL without an operator stands alone. -/
  idle : Value → Value

namespace Refit

variable (f : Refit)

/-- A value in the place of a name, where only a fragment of SQL has values. -/
def name : Value → Value
  | .raw (.text s) bindings => .raw (.text (f.fragment s bindings).1) (f.fragment s bindings).2
  | v => v

@[simp] theorem name_isRaw (v : Value) : (f.name v).isRaw = v.isRaw := by
  rcases v.raw_cases with ⟨s, bindings, rfl⟩ | ⟨content, bindings, rfl, h⟩ | h
  · rfl
  · cases content <;> rfl
  · cases v with
    | raw content bindings => exact absurd h (by simp [Value.isRaw])
    | _ => rfl

theorem name_of_not_raw {v : Value} (h : v.isRaw = false) : f.name v = v := by
  cases v with
  | raw content bindings => exact absurd h (by simp [Value.isRaw])
  | _ => rfl

theorem name_of_not_text {content : Value} (h : content.text? = none) (bindings : List Value) :
    f.name (.raw content bindings) = .raw content bindings := by
  cases content with
  | text s => exact absurd h (by simp [Value.text?])
  | _ => rfl

@[simp] theorem name_isCallable (v : Value) : (f.name v).isCallable = v.isCallable := by
  cases h : v.isRaw with
  | false => rw [f.name_of_not_raw h]
  | true => rw [Value.isCallable_of_isRaw h, Value.isCallable_of_isRaw (by rw [name_isRaw, h])]

theorem name_items? (v : Value) : (f.name v).items? = v.items? := by
  cases h : v.isRaw with
  | false => rw [f.name_of_not_raw h]
  | true => rw [Value.items?_of_isRaw h, Value.items?_of_isRaw (by rw [name_isRaw, h])]

def item (v : Value) : Value := if v.isRaw then f.name v else f.bound v

def operand (isBound : Bool) (key operator : Value) : Value → Value
  | .list items => .list (items.map f.item)
  | .tuple items => .tuple (items.map f.item)
  | v =>
    if v.isRaw || !isBound then f.name v
    else if key.isRaw && operator.isNull then f.idle v
    else f.bound v

theorem operand_of_items? {isBound : Bool} {key operator v : Value} {items : List Value}
    (h : v.items? = some items) :
    (f.operand isBound key operator v).items? = some (items.map f.item) := by
  cases v with
  | list xs => exact congrArg (fun zs : List Value => some (zs.map f.item)) (Option.some.inj h)
  | tuple xs => exact congrArg (fun zs : List Value => some (zs.map f.item)) (Option.some.inj h)
  | _ => exact absurd h (by simp [Value.items?])

theorem operand_of_items?_none {isBound : Bool} {key operator v : Value} (h : v.items? = none) :
    f.operand isBound key operator v =
      if v.isRaw || !isBound then f.name v
      else if key.isRaw && operator.isNull then f.idle v
      else f.bound v := by
  cases v with
  | list xs => exact absurd h (by simp [Value.items?])
  | tuple xs => exact absurd h (by simp [Value.items?])
  | _ => rfl

def cells (entries : List (Value × Value)) : List (Value × Value) :=
  entries.map fun cell => (f.name cell.1, f.item cell.2)

def data : Value → Value
  | .map entries => .map (f.cells entries)
  | v => v

def columns : Value → Value
  | .list names => .list (names.map f.name)
  | .tuple names => .tuple (names.map f.name)
  | .set names => .set (names.map f.name)
  | .map entries => .map (entries.map fun cell => (f.name cell.1, cell.2))
  | v => v

theorem columns_elements? (v : Value) : (f.columns v).elements? = v.elements?.map (List.map f.name) := by
  cases v with
  | text s =>
      refine congrArg some ?_
      rw [List.map_map]
      rfl
  | bytes content =>
      refine congrArg some ?_
      rw [List.map_map]
      rfl
  | map entries =>
      refine congrArg some ?_
      rw [List.map_map, List.map_map]
      rfl
  | _ => rfl

theorem columns_isTruthy (v : Value) : (f.columns v).isTruthy = v.isTruthy := by
  cases v with
  | list names => exact congrArg (!·) List.isEmpty_map
  | tuple names => exact congrArg (!·) List.isEmpty_map
  | set names => exact congrArg (!·) List.isEmpty_map
  | map entries => exact congrArg (!·) List.isEmpty_map
  | _ => rfl

/-- What is joined: a pair of names, a fragment of SQL, or a name. -/
def joined : Value → Value
  | .tuple names => .tuple (names.map f.name)
  | v => f.name v

end Refit

mutual

def Condition.refit (f : Refit) (isBound : Bool) : Condition → Condition
  | .test joint key operator operand => .test joint (f.name key) operator (f.operand isBound key operator operand)
  | .group joint members => .group joint (Condition.refitAll f true members)
  | .columns joint names => .columns joint (names.map f.name)

def Condition.refitAll (f : Refit) (isBound : Bool) : List Condition → List Condition
  | [] => []
  | c :: rest => Condition.refit f isBound c :: Condition.refitAll f isBound rest

end

def Field.refit (f : Refit) : Field → Field
  | .plain name => .plain (f.name name)
  | .aliased name shortName => .aliased (f.name name) shortName

def Join.refit (f : Refit) (j : Join) : Join where
  kind := j.kind
  table := f.joined j.table
  conditions := j.conditions.map (Condition.refitAll f false)

def OrderTerm.refit (f : Refit) (term : OrderTerm) : OrderTerm := ⟨f.name term.field, term.direction⟩

def Clauses.refit (f : Refit) (c : Clauses) : Clauses :=
  { c with
    distinctOn := c.distinctOn.map (Field.refit f)
    distincts := c.distincts.map (Field.refit f)
    selects := c.selects.map (Field.refit f)
    tables := c.tables.map f.name
    joins := c.joins.map (Join.refit f)
    wheres := Condition.refitAll f true c.wheres
    groupBys := c.groupBys.map f.name
    havings := Condition.refitAll f true c.havings
    orderBys := c.orderBys.map (OrderTerm.refit f)
    onDuplicate := c.onDuplicate.map f.cells }

mutual

/-- The projection with its values exchanged, and so in everything it is united with. -/
def SelectTree.refit (f : Refit) : SelectTree → SelectTree
  | .mk clauses members => .mk (clauses.refit f) (SelectTree.refitMembers f members)

def SelectTree.refitMembers (f : Refit) : List (UnionKind × SelectTree) → List (UnionKind × SelectTree)
  | [] => []
  | (kind, member) :: rest => (kind, SelectTree.refit f member) :: SelectTree.refitMembers f rest

end

def StatementTree.refit (f : Refit) : StatementTree → StatementTree
  | select tree => .select (tree.refit f)
  | insert clauses verb data => .insert (clauses.refit f) verb (f.data data)
  | update clauses data => .update (clauses.refit f) (f.data data)
  | delete clauses columns => .delete (clauses.refit f) (f.columns columns)
  | conditions isBound members => .conditions isBound (Condition.refitAll f isBound members)

/-! ### Vocabularies -/

/-- Which texts a statement may hold. -/
structure Vocabulary where
  /-- The characters that no plain text holds. -/
  special : List Char
  special_subset : ∀ c ∈ special, c ∈ Text.marks
  /-- The fragments of SQL that may stand where their values are taken over. -/
  fragment : String → List Value → Prop
  /-- The fragments of SQL that may stand where only their texts are written. -/
  bare : String → List Value → Prop

namespace Vocabulary

variable (V : Vocabulary)

/-- A text of the library, which holds no marks, holds no special character. -/
theorem avoids {s : String} (h : Text.Avoids Text.marks s) : Text.Avoids V.special s := h.mono V.special_subset

/-- The text of the value holds no special character. -/
def Word (v : Value) : Prop := ∀ s, v.written? = some s → Text.Avoids V.special s

/-- A name, or a fragment of SQL with its values. -/
def Name : Value → Prop
  | .raw (.text s) bindings => V.fragment s bindings
  | .raw _ _ => True
  | v => V.Word v

/-- A name, or a fragment of SQL of which only the text is written. -/
def BareName : Value → Prop
  | .raw (.text s) bindings => V.bare s bindings
  | .raw _ _ => True
  | v => V.Word v

/-- A value that is bound, or a fragment of SQL with its values. -/
def Item : Value → Prop
  | .raw (.text s) bindings => V.fragment s bindings
  | _ => True

def Operand (isBound : Bool) : Value → Prop
  | .list items => ∀ v ∈ items, V.Item v
  | .tuple items => ∀ v ∈ items, V.Item v
  | v => if isBound then V.Item v else V.Name v

def Cells (entries : List (Value × Value)) : Prop := ∀ cell ∈ entries, V.BareName cell.1 ∧ V.Item cell.2

def Data : Value → Prop
  | .map entries => V.Cells entries
  | _ => True

def Columns (v : Value) : Prop := ∀ names, v.elements? = some names → ∀ name ∈ names, V.BareName name

/-- What is joined. -/
def Joined : Value → Prop
  | .tuple names => ∀ name ∈ names, V.BareName name
  | v => V.Name v

variable {V} {v : Value}

theorem word_text {s : String} (h : Text.Avoids V.special s) : V.Word (.text s) := by
  rintro _ ⟨⟩
  exact h

theorem Name.word (h : V.Name v) (hraw : v.isRaw = false) : V.Word v := by
  cases v with
  | raw content bindings => exact absurd hraw (by simp [Value.isRaw])
  | _ => exact h

theorem BareName.word (h : V.BareName v) (hraw : v.isRaw = false) : V.Word v := by
  cases v with
  | raw content bindings => exact absurd hraw (by simp [Value.isRaw])
  | _ => exact h

theorem Item.name (h : V.Item v) (hraw : v.isRaw = true) : V.Name v := by
  cases v with
  | raw content bindings => cases content <;> exact h
  | _ => exact absurd hraw (by simp [Value.isRaw])

theorem Operand.items {isBound : Bool} {items : List Value} (h : V.Operand isBound v)
    (hitems : v.items? = some items) : ∀ w ∈ items, V.Item w := by
  cases v with
  | list xs => exact Option.some.inj hitems ▸ h
  | tuple xs => exact Option.some.inj hitems ▸ h
  | _ => exact absurd hitems (by simp [Value.items?])

theorem Operand.name {isBound : Bool} (h : V.Operand isBound v) (hitems : v.items? = none)
    (hname : v.isRaw = true ∨ isBound = false) : V.Name v := by
  have hsingle : if isBound then V.Item v else V.Name v := by
    cases v with
    | list xs => exact absurd hitems (by simp [Value.items?])
    | tuple xs => exact absurd hitems (by simp [Value.items?])
    | _ => exact h
  rcases hname with hraw | rfl
  · cases isBound with
    | true => exact Item.name hsingle hraw
    | false => exact hsingle
  · exact hsingle

theorem Name.joined (h : V.Name v) (hnames : ∀ names, v = .tuple names → ∀ name ∈ names, V.BareName name) :
    V.Joined v := by
  cases v with
  | tuple names => exact hnames names rfl
  | _ => exact h

end Vocabulary

mutual

def Condition.Fits (V : Vocabulary) (isBound : Bool) : Condition → Prop
  | .test joint key operator operand =>
    Text.Avoids V.special joint.joiner ∧ V.Name key ∧ V.Word operator ∧ V.Operand isBound operand
  | .group joint members => Text.Avoids V.special joint.joiner ∧ Condition.AllFit V true members
  | .columns joint names => Text.Avoids V.special joint.joiner ∧ ∀ name ∈ names, V.BareName name

def Condition.AllFit (V : Vocabulary) (isBound : Bool) : List Condition → Prop
  | [] => True
  | c :: rest => Condition.Fits V isBound c ∧ Condition.AllFit V isBound rest

end

def Field.Fits (V : Vocabulary) : Field → Prop
  | .plain name => V.Name name
  | .aliased name shortName => V.Name name ∧ V.Word shortName

structure Join.Fits (V : Vocabulary) (j : Join) : Prop where
  kind : Text.Avoids V.special j.kind
  table : V.Joined j.table
  conditions : ∀ conditions, j.conditions = some conditions → Condition.AllFit V false conditions

structure OrderTerm.Fits (V : Vocabulary) (term : OrderTerm) : Prop where
  field : V.Name term.field
  direction : Text.Avoids V.special term.direction

/-- The texts of the clauses that a projection reads belong to the vocabulary. -/
structure Clauses.Fits (V : Vocabulary) (c : Clauses) : Prop where
  distinctOn : ∀ field ∈ c.distinctOn, field.Fits V
  distincts : ∀ field ∈ c.distincts, field.Fits V
  selects : ∀ field ∈ c.selects, field.Fits V
  tables : ∀ table ∈ c.tables, V.Name table
  aliases : ∀ entry ∈ c.aliases, Text.Avoids V.special entry.2
  joins : ∀ join ∈ c.joins, join.Fits V
  wheres : Condition.AllFit V true c.wheres
  groupBys : ∀ field ∈ c.groupBys, V.Name field
  havings : Condition.AllFit V true c.havings
  orderBys : ∀ term ∈ c.orderBys, term.Fits V
  limit : ∀ v ∈ c.limit, V.Word v
  offset : ∀ v ∈ c.offset, V.Word v
  fetchNext : ∀ v ∈ c.fetchNext, V.Word v
  locks : ∀ v ∈ c.locks, V.Word v

mutual

def SelectTree.Fits (V : Vocabulary) : SelectTree → Prop
  | .mk clauses members => clauses.Fits V ∧ SelectTree.AllFit V members

def SelectTree.AllFit (V : Vocabulary) : List (UnionKind × SelectTree) → Prop
  | [] => True
  | (_, member) :: rest => SelectTree.Fits V member ∧ SelectTree.AllFit V rest

end

/-- The texts of the statement belong to the vocabulary. What an insertion changes and what is inserted, updated
or deleted names tables and columns by their texts alone. -/
def StatementTree.Fits (V : Vocabulary) : StatementTree → Prop
  | select tree => tree.Fits V
  | insert clauses _ data =>
    (∀ table ∈ clauses.tables.getLast?, V.BareName table) ∧ V.Data data ∧
      ∀ entries ∈ clauses.onDuplicate, V.Cells entries
  | update clauses data => clauses.Fits V ∧ (∀ table ∈ clauses.tables.getLast?, V.BareName table) ∧ V.Data data
  | delete clauses columns =>
    clauses.Fits V ∧ (∀ table ∈ clauses.tables.getLast?, V.BareName table) ∧ V.Columns columns
  | conditions isBound members => Condition.AllFit V isBound members

end SqlBuilder
