import SqlBuilder.Writing

/-!
Compiled statements: SQL text in which question marks stand for values, and the values in the order of the
marks. Text and values are put together in one pass, so they always stand in the same order. What goes to a
database may also be SQL that somebody has given, which should be a text.
-/

namespace SqlBuilder

/-- SQL text with the values for its placeholders. -/
structure Query where
  sql : String
  bindings : List Value := []
  deriving Inhabited

namespace Query

/-- Text without placeholders of its own. -/
def plain (sql : String) : Query := ⟨sql, []⟩

/-- A fragment of text behind another, each with its values. -/
def append (p q : Query) : Query := ⟨p.sql ++ q.sql, p.bindings ++ q.bindings⟩

instance : Append Query := ⟨append⟩

/-- The fragments one after the other with the glue in between. -/
def joined (glue : String) (parts : List Query) : Query :=
  ⟨Text.joined glue (parts.map (·.sql)), parts.flatMap (·.bindings)⟩

/-- The fragments as clauses of one statement, with single spaces between those that hold text. -/
def clauses (parts : List Query) : Query :=
  ⟨Text.concatenate (parts.map (·.sql)), parts.flatMap (·.bindings)⟩

/-- The fragment between parentheses. -/
def enclosed (q : Query) : Query := ⟨"(" ++ q.sql ++ ")", q.bindings⟩

end Query

/-- A statement as it goes to a database, with the values for its placeholders. -/
structure Issued where
  /-- The SQL, which should be a text. -/
  sql : Value
  bindings : List Value
  /-- The database may read a backslash as an escape. -/
  hasEscapes : Bool
  deriving Inhabited

namespace Issued

def toValue (s : Issued) : Value := .statement s.sql s.bindings s.hasEscapes

/-- The text of the statement with the values in place. -/
def text? (s : Issued) : Option String := s.toValue.written?

/-- Equal SQL and equal values. -/
def same (s t : Issued) : Bool := s.toValue.same t.toValue

end Issued

/-- The compiled statement as it goes to a database. -/
def Query.issued (q : Query) (hasEscapes : Bool) : Issued := ⟨.text q.sql, q.bindings, hasEscapes⟩

end SqlBuilder
