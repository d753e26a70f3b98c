import SqlBuilder.Event
import SqlBuilder.Fault

/-!
The hooks that are registered, by table and event. One slot stands for any table; an absent and an
empty table name both mean that slot. In a slot the hook of an event itself goes before wildcards,
and of those the one that was registered first.
-/

namespace SqlBuilder

/-- The name of the slot for any table. -/
def anyTable : Value := .text ":any"

/-- Tables in the order of their first registration, each with its events in that order. -/
abbrev HookTable := List (Value × List (EventKind × Value))

namespace HookTable

/-- The slot that a table name means. -/
def slot (table : Value) : Value := if table.isTruthy then table else anyTable

/-- Only what can be a key can name a slot. -/
def slot? (table : Value) : Except Fault Value :=
  if (slot table).isKey then pure (slot table) else throw .typeMismatch

/-- The events of a slot with one more: a registered event keeps its place and takes the new hook. -/
def insertEvent (kind : EventKind) (hook : Value) : List (EventKind × Value) → List (EventKind × Value)
  | [] => [(kind, hook)]
  | (k, h) :: rest => if k = kind then (k, hook) :: rest else (k, h) :: insertEvent kind hook rest

/-- The events that are registered in a slot. -/
def eventsOf (hooks : HookTable) (table : Value) : List (EventKind × Value) :=
  (Value.lookup? (slot table) hooks).getD []

def register (hooks : HookTable) (kind : EventKind) (hook table : Value) : HookTable :=
  Value.insertEntry (slot table) (insertEvent kind hook (hooks.eventsOf table)) hooks

/-- The table without the hook of exactly this event. Nothing changes if there is none. -/
def remove (hooks : HookTable) (kind : EventKind) (table : Value) : HookTable :=
  hooks.map fun entry =>
    if (slot table).alike entry.1 then (entry.1, entry.2.filter fun e => e.1 ≠ kind) else entry

/-- The hook of a slot for an event. -/
def findIn (kind : EventKind) (events : List (EventKind × Value)) : Option Value :=
  match events.find? fun entry => entry.1 == kind with
  | some entry => some entry.2
  | none => (events.find? fun entry => entry.1.isWildcard && entry.1.covers kind).map (·.2)

/-- The hook that runs at an event on a table. A fragment of SQL is no table and has none. -/
def find? (hooks : HookTable) (kind : EventKind) (table : Value) : Option Value :=
  if table.isRaw then none else findIn kind (hooks.eventsOf table)

end HookTable

namespace EventKind

/-- The event that a value names. -/
def ofValue (v : Value) : Except Fault EventKind :=
  match v with
  | .text s => match ofName? s with
    | some kind => pure kind
    | none => throw (.value (.unknownEvent v.shown))
  | _ => throw (.value (.unknownEvent v.shown))

end EventKind

end SqlBuilder
