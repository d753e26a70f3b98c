import SqlBuilder.Value
import SqlBuilder.Yaml.Binary
import SqlBuilder.Yaml.Node

/-!
What the nodes of a YAML document stand for. A scalar stands for a value. What a collection stands for is
known by the numbers of its parts, since a collection can be a part of itself: collections are put aside
empty, and are filled one after the other in the order in which they were met. A mapping may take over the
entries of other mappings, which then stand in front of its own. Keys must be values that can be keys, and
later entries take the place of earlier ones.
-/

namespace SqlBuilder.Yaml

/-- What a node stands for, with the numbers of the nodes that are its parts. -/
inductive Shape where
  | whole (v : Value)
  | list (items : List Nat)
  | pairs (items : List (Nat × Nat))
  | map (entries : List (Value × Nat))
  | set (keys : List Value)

/-- The nodes, what those stand for that have been met, and which collections have yet to be filled. -/
structure Maker where
  nodes : Array Node
  shapes : Array (Option Shape)
  pending : List Nat

abbrev Make := StateT Maker (Except LoadFault)

namespace Make

/-- A node is not what its kind says. -/
def fail {α : Type} : Make α := throw .malformed

def node (n : Nat) : Make Node := do pure ((← get).nodes[n]?.getD .empty)

def setNode (n : Nat) (node : Node) : Make Unit := modify fun m => { m with nodes := m.nodes.setIfInBounds n node }

def setShape (n : Nat) (shape : Shape) : Make Unit :=
  modify fun m => { m with shapes := m.shapes.setIfInBounds n (some shape) }

/-- The entries of a mapping. -/
def entriesOf (n : Nat) : Make (List (Nat × Nat)) := do
  match (← node n).content with
  | .mapping entries => pure entries
  | _ => fail

/-! ### Scalars -/

/-- How often a text may be looked for in place of a mapping. -/
def maxDetours : Nat := 900

/-- The text of a scalar, and whether it holds surrogates. A mapping may give it under an equals sign. -/
def scalarText : Nat → Nat → Make (String × Bool)
  | 0, _ => throw .tooDeep
  | fuel + 1, n => do
    match (← node n).content with
    | .scalar text hasSurrogates => pure (text, hasSurrogates)
    | .sequence _ => fail
    | .mapping entries => do
      match ← entries.findM? fun entry => do pure ((← node entry.1).tag = .equals) with
      | some (_, n) => scalarText fuel n
      | none => fail

/-- What is no number is marked by the node that says so. -/
def markOf (n : Nat) : Nat := n + 1

/-- The value of a scalar of a kind. Only a kind of values that hold no other values has one. -/
def scalarValue (n : Nat) (tag : Tag) : Make Value := do
  let read : Make (String × Bool) := scalarText maxDetours n
  match tag with
  | .null => do
    let _ ← read
    pure .null
  | .text => do
    let (text, hasSurrogates) ← read
    pure (if hasSurrogates then .surrogates text else .text text)
  | .bool => do pure (.bool (← Scalar.bool (← read).1))
  | .int => do pure (.int (← Scalar.int (← read).1))
  | .float => do pure (.float (← Scalar.float (markOf n) (← read).1))
  | .timestamp => do
    let (text, _) ← read
    match (← node n).content with
    | .scalar _ _ => pure (.moment (← Scalar.timestamp text))
    | _ => throw .dateOfCollection
  | .binary => do
    let (text, hasSurrogates) ← read
    let cs := text.toList
    if hasSurrogates || cs.any (fun c => 0x80 ≤ c.toNat) then fail
    match Binary.bytes? cs with
    | some bytes => pure (.bytes bytes)
    | none => fail
  | _ => fail

/-- What a collection of a kind stands for before it is filled. -/
def emptyShape? : Tag → Option Shape
  | .sequence => some (.list [])
  | .pairs => some (.pairs [])
  | .mapping => some (.map [])
  | .set => some (.set [])
  | _ => none

/-- What a node stands for. Collections are put aside. -/
def shapeOf (n : Nat) : Make Shape := do
  match (← get).shapes[n]? with
  | some (some shape) => pure shape
  | _ => do
    let tag := (← node n).tag
    let shape ← match emptyShape? tag with
      | some shape => do
        modify fun m => { m with pending := m.pending ++ [n] }
        pure shape
      | none => do pure (.whole (← scalarValue n tag))
    setShape n shape
    pure shape

/-! ### Entries that are taken over -/

/-- Takes the first of the keys under which entries are taken over out of a mapping, and tells where the
entries come from. -/
def takeSource (n : Nat) : Make (Option Nat) := do
  let entries ← entriesOf n
  match ← entries.findM? fun entry => do pure ((← node entry.1).tag = .merge) with
  | none => pure none
  | some entry => do
    setNode n { ← node n with content := .mapping (entries.erase entry) }
    pure (some entry.2)

/-- The entries that a mapping gives, or the mappings of a list, the last one first. Each of them takes over
what it should beforehand. -/
def given (flatten : Nat → Make Unit) (source : Nat) : Make (List (Nat × Nat)) := do
  let entriesFrom (n : Nat) : Make (List (Nat × Nat)) := do
    let _ ← entriesOf n
    flatten n
    entriesOf n
  match (← node source).content with
  | .mapping _ => entriesFrom source
  | .sequence items => do pure (← items.mapM entriesFrom).reverse.flatten
  | .scalar _ _ => fail

/-- All entries that a mapping takes over, from a number of sources at most. -/
def takenOver (flatten : Nat → Make Unit) (n : Nat) : Nat → Make (List (Nat × Nat))
  | 0 => pure []
  | count + 1 => do
    match ← takeSource n with
    | none => pure []
    | some source => do
      let front ← given flatten source
      pure (front ++ (← takenOver flatten n count))

/-- An equals sign that is a key is a text. -/
def plainKey (entry : Nat × Nat) : Make Unit := do
  let key ← node entry.1
  if key.tag = .equals then setNode entry.1 { key with tag := .text }

/-- A mapping takes over the entries that it should, at most so many mappings deep. -/
def flatten : Nat → Nat → Make Unit
  | 0, _ => throw .tooDeep
  | depth + 1, n => do
    let taken ← takenOver (flatten depth) n (← entriesOf n).length
    let own ← entriesOf n
    own.forM plainKey
    setNode n { ← node n with content := .mapping (taken ++ own) }

/-! ### Collections -/

/-- The entries of a mapping by their keys. A key must be a scalar. -/
def keyed : List (Nat × Nat) → Make (List (Value × Nat))
  | [] => pure []
  | (key, value) :: rest => do
    match ← shapeOf key with
    | .whole v => do
      let _ ← shapeOf value
      pure ((v, value) :: (← keyed rest))
    | _ => fail

/-- The entries of a mapping, in the order of their keys. -/
def mappingEntries (n : Nat) : Make (List (Value × Nat)) := do
  let _ ← entriesOf n
  flatten maxDetours n
  pure (Value.entriesOf (← keyed (← entriesOf n)))

/-- A mapping of one entry as a pair. -/
def pairOf (n : Nat) : Make (Nat × Nat) := do
  match ← entriesOf n with
  | [(key, value)] => do
    let _ ← shapeOf key
    let _ ← shapeOf value
    pure (key, value)
  | _ => fail

/-- The items of a list. -/
def itemsOf (n : Nat) : Make (List Nat) := do
  match (← node n).content with
  | .sequence items => pure items
  | _ => fail

/-- A collection is filled. -/
def fill (n : Nat) : Make Unit := do
  match (← node n).tag with
  | .sequence => do
    let items ← itemsOf n
    items.forM fun item => do
      let _ ← shapeOf item
    setShape n (.list items)
  | .pairs => do setShape n (.pairs (← (← itemsOf n).mapM pairOf))
  | .set => do setShape n (.set ((← mappingEntries n).map (·.1)))
  | _ => do setShape n (.map (← mappingEntries n))

/-- All collections that have been put aside are filled, and those that they put aside. -/
def fillAll : Nat → Make Unit
  | 0 => pure ()
  | fuel + 1 => do
    match (← get).pending with
    | [] => pure ()
    | n :: rest => do
      modify fun m => { m with pending := rest }
      fill n
      fillAll fuel

end Make

/-- What the nodes of a document stand for, by their numbers. Nothing stands for nodes that are not met on the
way from the root. -/
def Graph.shapes (g : Graph) : Except LoadFault (Array (Option Shape)) := do
  let make : Make Unit := do
    let _ ← Make.shapeOf g.root
    Make.fillAll g.nodes.size
  let (_, m) ← make.run ⟨g.nodes, Array.replicate g.nodes.size none, []⟩
  pure m.shapes

end SqlBuilder.Yaml
