import SqlBuilder.Fault

/-!
Mappings that take over entries. The entries come from another mapping, or from pairs one after the other,
and what was taken over before a pair that is none stays.
-/

namespace SqlBuilder

namespace Entries

/-- The entry that a pair stands for. -/
def ofPair (place : Nat) (pair : Value) : Except Fault (Value × Value) :=
  match pair.elements? with
  | some [key, v] => if key.isKey then pure (key, v) else throw .typeMismatch
  | some items => throw (.value (.pairExpected place items.length))
  | none => throw .typeMismatch

/-- The entries with those of the pairs, the first of which has the given place. -/
def addPairs (known : List (Value × Value)) : Nat → List Value → List (Value × Value) × Option Fault
  | _, [] => (known, none)
  | place, pair :: rest => match ofPair place pair with
    | .ok (key, v) => addPairs (Value.insertEntry key v known) (place + 1) rest
    | .error fault => (known, some fault)

/-- The entries with those of a value, as far as it has any. -/
def update (known : List (Value × Value)) (data : Value) : List (Value × Value) × Option Fault :=
  match data with
  | .map entries => (entries.foldl (fun known entry => Value.insertEntry entry.1 entry.2 known) known, none)
  | data => match data.elements? with
    | some pairs => addPairs known 0 pairs
    | none => (known, some .typeMismatch)

/-- The entries of a value. -/
def ofValue (data : Value) : Except Fault (List (Value × Value)) :=
  match update [] data with
  | (entries, none) => pure entries
  | (_, some fault) => throw fault

end Entries

end SqlBuilder
