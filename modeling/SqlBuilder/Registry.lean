import SqlBuilder.Fault

/-!
Connections by name. The first one that is added is the default until another one is chosen. A name should be
a text, but anything that can be a key serves as one.
-/

namespace SqlBuilder

/-- Connections in the order in which their names came in, and the name of the default. -/
structure Registry (α : Type) where
  entries : List (Value × α) := []
  /-- The name of the default; an absent value if there is none. -/
  defaultName : Value := .null

namespace Registry

variable {α : Type}

def names (r : Registry α) : List Value := r.entries.map (·.1)

/-- Only what can be a key can be looked for. -/
def checkName (name : Value) : Except Fault Unit := if name.isKey then pure () else throw .typeMismatch

/-- The connection of that name. -/
def find? (r : Registry α) (name : Value) : Except Fault (Option α) := do
  checkName name
  pure (Value.lookup? name r.entries)

def contains (r : Registry α) (name : Value) : Except Fault Bool := do pure (← r.find? name).isSome

/-- One more connection, which becomes the default if it is to be or if there is none. A known name keeps its
place. -/
def add (r : Registry α) (name : Value) (connection : α) (isDefault : Bool) : Except Fault (Registry α) := do
  checkName name
  pure {
    entries := Value.insertEntry name connection r.entries
    defaultName := if isDefault || r.defaultName.isNull then name else r.defaultName }

/-- The connection of that name, or the default for an absent one. -/
def get (r : Registry α) (name : Value) : Except Fault α := do
  let name := if name.isNull then r.defaultName else name
  let unregistered : Except Fault α := do throw (.sql (.unregistered (← name.written)))
  if name.isNull then unregistered
  else match ← r.find? name with
    | some connection => pure connection
    | none => unregistered

def setDefault (r : Registry α) (name : Value) : Except Fault (Registry α) := do
  if ← r.contains name then pure { r with defaultName := name }
  else throw (.sql (.unregistered (← name.written)))

/-- The connection that builders use which name none. A default whose name counts as false is none. -/
def default? (r : Registry α) : Option α :=
  if r.defaultName.isTruthy then Value.lookup? r.defaultName r.entries else none

/-- The connection for a builder that names none. -/
def forBuilder (r : Registry α) : Except Fault α :=
  match r.default? with
  | some connection => pure connection
  | none => throw (.sql .noConnection)

/-- The registry without the name, and the connection that had it. The first of the others takes the place
of a default that is removed. -/
def remove (r : Registry α) (name : Value) : Except Fault (Option α × Registry α) := do
  let removed ← r.find? name
  let entries := r.entries.filter fun entry => !name.alike entry.1
  let first := (entries.head?.map (·.1)).getD .null
  pure (removed, { entries, defaultName := if r.defaultName.same name then first else r.defaultName })

end Registry

end SqlBuilder
