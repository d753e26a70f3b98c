import SqlBuilder.Yaml.Shape

/-!
YAML documents as values. A collection that is a part of itself has no value of its own, so it is unfolded a
number of times, and is endless behind that. Settings never lead that deep.
-/

namespace SqlBuilder.Yaml

namespace LoadFault

/-- The fault in words, where it has any. -/
def message? : LoadFault → Option String
  | noCharacter => some "chr() arg not in range(0x110000)"
  | numeral fault => some fault.message
  | number text => some ("could not convert string to float: " ++ Text.quoted text)
  | date refusal => some refusal
  | zone minutes => some ("offset must be a timedelta strictly between -timedelta(hours=24) and " ++
      "timedelta(hours=24), not " ++ (TimeSpan.ofMinutes minutes).shown ++ ".")
  | _ => none

end LoadFault

/-- The value of a shape, as far as the values of its parts are known. -/
def Shape.value (known : Array Value) : Shape → Value
  | .whole v => v
  | .list items => .list (items.map part)
  | .pairs items => .list (items.map fun pair => .tuple [part pair.1, part pair.2])
  | .map entries => .map (entries.map fun entry => (entry.1, part entry.2))
  | .set keys => .set keys
where
  part (n : Nat) : Value := known[n]?.getD .endless

/-- The values of all shapes, one after the other in the given order, so that parts come first. What is a
part of itself finds the value that was known before. -/
def unfolded (shapes : Array (Option Shape)) (order : List Nat) (known : Array Value) : Array Value :=
  order.foldl (fun known n => match shapes[n]? with
    | some (some shape) => known.setIfInBounds n (shape.value known)
    | _ => known) known

/-- How often what is a part of itself is unfolded. -/
def rounds : Nat := 4

/-- The value of a document. -/
def Graph.value (g : Graph) : Except LoadFault Value := do
  let shapes ← g.shapes
  let known := Nat.repeat (unfolded shapes g.order) rounds (Array.replicate g.nodes.size .endless)
  pure (known[g.root]?.getD .endless)

/-- The value of the only document of a text; an absent one if the text is empty. -/
def load (text : String) : Except LoadFault Value := do
  match ← Graph.ofText text with
  | none => pure .null
  | some graph => graph.value

end SqlBuilder.Yaml
