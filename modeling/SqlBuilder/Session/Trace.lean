import SqlBuilder.Draft
import SqlBuilder.Driver
import SqlBuilder.Event.HookTable

/-!
What a session leaves behind: the reports of its calls, and the journal of everything that happened while
they ran.
-/

namespace SqlBuilder

/-- What is noted about a call. -/
inductive Report where
  | failed (fault : Fault)
  /-- A builder, which may be the one that was called, with the statement that it stands for. -/
  | builder (isSelf : Bool) (statement : Except Fault Query)
  /-- A statement that was compiled to be read, with its text. -/
  | compiled (statement : Value) (text : String)
  | value (v : Value)

mutual

/-- A note in the journal. -/
inductive Entry where
  | wire (entry : WireEntry)
  /-- A hook ran: at which event, with which statement and which further arguments, and which calls it
  made. -/
  | hook (name : String) (event : EventKind) (statement : Option Issued) (arguments : List (Value × Value))
      (calls : List Record)

/-- A call with what happened while it ran: the calls of a transaction's script, and the journal. -/
inductive Record where
  | mk (report : Report) (inner : Option (List Record)) (journal : List Entry)

end

end SqlBuilder
