import SqlBuilder.Yaml.Scalar
import SqlBuilder.Yaml.Token

/-!
The nodes of a YAML document. A node has a kind, which is declared or follows from its form. A node that has
a name may occur in several places, even within itself, so nodes are known by their numbers, and collections
hold the numbers of their parts. Every function takes the tokens from the front of those that remain, and
fails where they do not make up what is expected.
-/

namespace SqlBuilder.Yaml

inductive NodeContent where
  /-- A text, and whether code points of surrogates occur in it. -/
  | scalar (text : String) (hasSurrogates : Bool)
  | sequence (items : List Nat)
  | mapping (entries : List (Nat × Nat))
  deriving DecidableEq, Repr

structure Node where
  tag : Tag
  content : NodeContent
  deriving DecidableEq, Repr

namespace Node

/-- A node that is left out. -/
def empty : Node := ⟨.null, .scalar "" false⟩

instance : Inhabited Node := ⟨empty⟩

end Node

/-- The tokens that remain, what names stand for so far, and the nodes that have been begun. -/
structure Reader where
  rest : List Token
  /-- What is wrong behind the tokens. -/
  fault : Option LoadFault
  anchors : List (String × Nat) := []
  /-- What the handles of tags stand for. -/
  handles : List (String × String) := []
  nodes : Array Node := #[]
  /-- The numbers of the nodes in the order in which they have ended. -/
  finished : List Nat := []

abbrev Read := StateT Reader (Except LoadFault)

namespace Read

/-- The nodes are not arranged as a document is. -/
def fail {α : Type} : Read α := throw .malformed

/-- The next token, or nothing at the end of the text. -/
def peek : Read (Option Token) := do
  let r ← get
  match r.rest, r.fault with
  | token :: _, _ => pure (some token)
  | [], some fault => throw fault
  | [], none => pure none

def skip : Read Unit := modify fun r => { r with rest := r.rest.tail }

/-- Takes the token if it is the next one. -/
def accept (token : Token) : Read Bool := do
  if (← peek) = some token then
    skip
    pure true
  else pure false

def expect (token : Token) : Read Unit := do unless ← accept token do fail

/-- One of the tokens comes next. -/
def isNext (tokens : List Token) : Read Bool := do pure ((← peek).any tokens.contains)

/-! ### Names and kinds -/

/-- The handles that every document knows. -/
def commonHandles : List (String × String) := [("!", "!"), ("!!", Tag.lead)]

/-- The full name of a declared kind. A mark alone declares nothing. -/
def tagName (handle : Option String) (suffix : String) : Read String := do
  match handle with
  | none => pure suffix
  | some handle => match (← get).handles.find? fun entry => entry.1 = handle with
    | some (_, lead) => pure (lead ++ suffix)
    | none => fail

/-- A name for the node that follows. -/
def anchor? : Read (Option String) := do
  match ← peek with
  | some (.anchor name) => do
    skip
    pure (some name)
  | _ => pure none

/-- What stands in front of a node: a name for it and its kind, in either order. -/
def properties : Read (Option String × Option String) := do
  let first ← anchor?
  match ← peek with
  | some (.tag handle suffix) => do
    skip
    let name ← if first.isNone then anchor? else pure first
    pure (name, some (← tagName handle suffix))
  | _ => pure (first, none)

/-- The kind of a scalar: as it is declared, as its form tells if it is plain, or a text. -/
def scalarTag (declared : Option String) (text : String) (isPlain : Bool) : Tag :=
  match declared with
  | none => if isPlain then Scalar.tagOf text else .text
  | some "!" => Scalar.tagOf text
  | some name => Tag.ofName name

/-- The kind of a collection. -/
def collectionTag (declared : Option String) (usual : Tag) : Tag :=
  match declared with
  | none => usual
  | some "!" => usual
  | some name => Tag.ofName name

/-! ### Nodes by number -/

/-- A node is begun and gets the next number. Its name stands for it from now on. No name is given twice. -/
def begin (name : Option String) (tag : Tag) : Read Nat := do
  let r ← get
  let number := r.nodes.size
  if let some name := name then
    if r.anchors.any fun entry => entry.1 = name then fail
    modify fun r => { r with anchors := (name, number) :: r.anchors }
  modify fun r => { r with nodes := r.nodes.push ⟨tag, Node.empty.content⟩ }
  pure number

/-- The content of a node is known. -/
def finish (number : Nat) (content : NodeContent) : Read Unit :=
  modify fun r => { r with
    nodes := r.nodes.modify number fun node => { node with content }
    finished := number :: r.finished }

/-- A node, of which the name holds already while its content is read. -/
def whole (name : Option String) (tag : Tag) (content : Read NodeContent) : Read Nat := do
  let number ← begin name tag
  finish number (← content)
  pure number

def scalar (name : Option String) (tag : Tag) (text : String) (hasSurrogates : Bool) : Read Nat :=
  whole name tag (pure (.scalar text hasSurrogates))

/-- A node that is left out. -/
def absent : Read Nat := scalar none .null "" false

/-! ### Collections -/

/-- Where a node is expected: among blocks, among blocks where a list may stand without indent, or in a
flow. -/
inductive Place where
  | block
  | blockOrList
  | flow
  deriving DecidableEq

/-- How deep nodes can be nested. -/
def maxLevel : Nat := 488

mutual

def node : Nat → Nat → Place → Read Nat
  | 0, _, _ => throw .tooDeep
  | fuel + 1, level, place => do
    if maxLevel < level then throw .tooDeep
    match ← peek with
    | some (.reference name) => do
      skip
      match (← get).anchors.find? fun entry => entry.1 = name with
      | some (_, number) => pure number
      | none => fail
    | _ => do
      let (name, kind) ← properties
      match ← peek, place with
      | some .blockEntry, .blockOrList =>
        whole name (collectionTag kind .sequence) do pure (.sequence (← listItems fuel level))
      | some (.scalar text isPlain hasSurrogates), _ => do
        skip
        scalar name (scalarTag kind text isPlain) text hasSurrogates
      | some .flowSequenceStart, _ => do
        skip
        whole name (collectionTag kind .sequence) do pure (.sequence (← flowItems fuel level true))
      | some .flowMappingStart, _ => do
        skip
        whole name (collectionTag kind .mapping) do pure (.mapping (← flowEntries fuel level true))
      | next, place =>
        if place ≠ .flow && next = some .blockSequenceStart then do
          skip
          whole name (collectionTag kind .sequence) do pure (.sequence (← blockItems fuel level))
        else if place ≠ .flow && next = some .blockMappingStart then do
          skip
          whole name (collectionTag kind .mapping) do pure (.mapping (← blockEntries fuel level))
        else if name.isSome || kind.isSome then scalar name (scalarTag kind "" true) "" false
        else fail

/-- A part of a collection, unless one of the tokens shows that it is left out. -/
def nodeUnless : Nat → Nat → List Token → Place → Read Nat
  | 0, _, _, _ => throw .tooDeep
  | fuel + 1, level, tokens, place => do
    if ← isNext tokens then absent else node fuel (level + 1) place

/-- The items of a list that is indented. -/
def blockItems : Nat → Nat → Read (List Nat)
  | 0, _ => throw .tooDeep
  | fuel + 1, level => do
    if ← accept .blockEntry then
      let item ← nodeUnless fuel level [.blockEntry, .blockEnd] .block
      pure (item :: (← blockItems fuel level))
    else
      expect .blockEnd
      pure []

/-- The items of a list that stands under a key without indent. -/
def listItems : Nat → Nat → Read (List Nat)
  | 0, _ => throw .tooDeep
  | fuel + 1, level => do
    if ← accept .blockEntry then
      let item ← nodeUnless fuel level [.blockEntry, .key, .value, .blockEnd] .block
      pure (item :: (← listItems fuel level))
    else pure []

/-- The entries of a mapping that is indented. A value never stands there without a key. -/
def blockEntries : Nat → Nat → Read (List (Nat × Nat))
  | 0, _ => throw .tooDeep
  | fuel + 1, level => do
    if ← accept .key then
      let key ← nodeUnless fuel level [.key, .value, .blockEnd] .blockOrList
      let value ← if ← accept .value then nodeUnless fuel level [.key, .value, .blockEnd] .blockOrList
        else absent
      pure ((key, value) :: (← blockEntries fuel level))
    else
      expect .blockEnd
      pure []

/-- The items of a list in brackets. A key among them makes a mapping of one entry. -/
def flowItems : Nat → Nat → Bool → Read (List Nat)
  | 0, _, _ => throw .tooDeep
  | fuel + 1, level, isFirst => do
    if ← accept .flowSequenceEnd then pure []
    else
      unless isFirst do expect .flowEntry
      if ← accept .flowSequenceEnd then pure []
      else if ← accept .key then
        let item ← whole none .mapping do
          let key ← nodeUnless fuel (level + 1) [.value, .flowEntry, .flowSequenceEnd] .flow
          let value ← if ← accept .value then nodeUnless fuel (level + 1) [.flowEntry, .flowSequenceEnd] .flow
            else absent
          pure (.mapping [(key, value)])
        pure (item :: (← flowItems fuel level false))
      else
        let item ← node fuel (level + 1) .flow
        pure (item :: (← flowItems fuel level false))

/-- The entries of a mapping in braces. A node that is no key has an empty value. -/
def flowEntries : Nat → Nat → Bool → Read (List (Nat × Nat))
  | 0, _, _ => throw .tooDeep
  | fuel + 1, level, isFirst => do
    if ← accept .flowMappingEnd then pure []
    else
      unless isFirst do expect .flowEntry
      if ← accept .flowMappingEnd then pure []
      else if ← accept .key then
        let key ← nodeUnless fuel level [.value, .flowEntry, .flowMappingEnd] .flow
        let value ← if ← accept .value then nodeUnless fuel level [.flowEntry, .flowMappingEnd] .flow
          else absent
        pure ((key, value) :: (← flowEntries fuel level false))
      else
        let key ← node fuel (level + 1) .flow
        let value ← absent
        pure ((key, value) :: (← flowEntries fuel level false))

end

/-! ### Documents -/

/-- The declarations in front of a document. The version is declared once at most and must be known, and no
handle is declared twice. -/
def directives : Nat → Bool → Read Unit
  | 0, _ => fail
  | fuel + 1, hasVersion => do
    match ← peek with
    | some (.directive (.version major)) => do
      if hasVersion || major ≠ 1 then fail
      skip
      directives fuel true
    | some (.directive (.tag handle lead)) => do
      if (← get).handles.any fun entry => entry.1 = handle then fail
      modify fun r => { r with handles := (handle, lead) :: r.handles }
      skip
      directives fuel hasVersion
    | some (.directive .other) => do
      skip
      directives fuel hasVersion
    | _ => pure ()

/-- The ends of documents that follow each other. -/
def documentEnds : Nat → Read Unit
  | 0 => pure ()
  | fuel + 1 => do if ← accept .documentEnd then documentEnds fuel

/-- Nothing but ends of documents follows. -/
def conclude (fuel : Nat) : Read Unit := do
  documentEnds fuel
  unless (← peek).isNone do
    modify fun r => { r with handles := [] }
    directives fuel false
    fail

/-- The node of a document, or nothing if there is none. -/
def document (fuel : Nat) : Read (Option Nat) := do
  let isBare ← match ← peek with
    | none => return none
    | some (.directive _) => pure false
    | some .documentStart => pure false
    | some _ => pure true
  if isBare then
    modify fun r => { r with handles := commonHandles }
    let root ← node fuel 0 .block
    conclude fuel
    pure (some root)
  else
    directives fuel false
    modify fun r => { r with handles := r.handles ++ commonHandles }
    expect .documentStart
    let isEmpty ← match ← peek with
      | none => pure true
      | some (.directive _) => pure true
      | some token => pure (token = .documentStart || token = .documentEnd)
    let root ← if isEmpty then absent else node fuel 0 .block
    conclude fuel
    pure (some root)

end Read

/-- The nodes of a document by number. -/
structure Graph where
  nodes : Array Node
  /-- The numbers of the nodes, those of the parts of a collection in front of its own. -/
  order : List Nat
  root : Nat

/-- The nodes of the only document of a text, or nothing if there is none. -/
def Graph.ofText (text : String) : Except LoadFault (Option Graph) := do
  let scanned := Token.scan text
  let (root, r) ← (Read.document (4 * scanned.tokens.length + 8)).run
    { rest := scanned.tokens, fault := scanned.fault }
  pure (root.map fun root => ⟨r.nodes, r.finished.reverse, root⟩)

end SqlBuilder.Yaml
