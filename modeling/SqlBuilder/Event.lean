import SqlBuilder.Text.Strip

/-!
The points of an execution at which hooks run. A hook is registered for one event or for all events
of a phase; the latter is written with a star in place of the operation.
-/

namespace SqlBuilder

inductive EventKind where
  | beforeAll
  | afterAll
  | beforeQuery
  | afterQuery
  | beforeSelect
  | afterSelect
  | beforeInsert
  | afterInsert
  | beforeUpdate
  | afterUpdate
  | beforeDelete
  | afterDelete
  deriving DecidableEq, Repr, Inhabited

namespace EventKind

def all : List EventKind :=
  [beforeAll, afterAll, beforeQuery, afterQuery, beforeSelect, afterSelect, beforeInsert, afterInsert,
    beforeUpdate, afterUpdate, beforeDelete, afterDelete]

def name : EventKind → String
  | beforeAll => "before-*"
  | afterAll => "after-*"
  | beforeQuery => "before-query"
  | afterQuery => "after-query"
  | beforeSelect => "before-select"
  | afterSelect => "after-select"
  | beforeInsert => "before-insert"
  | afterInsert => "after-insert"
  | beforeUpdate => "before-update"
  | afterUpdate => "after-update"
  | beforeDelete => "before-delete"
  | afterDelete => "after-delete"

def ofName? (s : String) : Option EventKind := all.find? fun kind => kind.name == s

/-- The kind stands for every event of its phase. -/
def isWildcard (kind : EventKind) : Bool := kind.name.toList.contains '*'

/-- The part of the name in front of the star. -/
def phase (kind : EventKind) : List Char := (Text.splitFirstChars '*' kind.name.toList).1

/-- A hook of this kind runs at the event: a wildcard at every event whose name holds its phase, any
other kind at its own event alone. -/
def covers (kind event : EventKind) : Bool :=
  if kind.isWildcard then Text.containsChars kind.phase event.name.toList else kind == event

end EventKind

end SqlBuilder
