import SqlBuilder.Value

/-!
What is wrong with the data of a configuration. Every part of the data is looked at, so one reading can
have many issues, each at its own place.
-/

namespace SqlBuilder

inductive IssueKind where
  | unknownEngine
  | numeralExpected
  /-- A numeral with more digits than are read, or a number beyond all integers of a machine. -/
  | numeralTooLong
  | integerExpected
  /-- A number with a fraction where an integer is expected. -/
  | fraction
  | notFinite
  | tooSmall
  | tooLarge
  | textExpected
  /-- A text of which the characters are not known. -/
  | unknownCharacters
  /-- A text or a number that stands for no truth value. -/
  | unknownFlag
  | flagExpected
  | mappingExpected
  | recordExpected
  /-- Data that does not fit together, with the reason. -/
  | inconsistent (reason : String)
  deriving DecidableEq, Repr

namespace IssueKind

/-- The name under which the kind is reported. -/
def name : IssueKind → String
  | unknownEngine => "enum"
  | numeralExpected => "int_parsing"
  | numeralTooLong => "int_parsing_size"
  | integerExpected => "int_type"
  | fraction => "int_from_float"
  | notFinite => "finite_number"
  | tooSmall => "greater_than_equal"
  | tooLarge => "less_than_equal"
  | textExpected => "string_type"
  | unknownCharacters => "string_unicode"
  | unknownFlag => "bool_parsing"
  | flagExpected => "bool_type"
  | mappingExpected => "dict_type"
  | recordExpected => "model_type"
  | inconsistent _ => "value_error"

/-- The reason in words, where there is one. -/
def message? : IssueKind → Option String
  | inconsistent reason => some ("Value error, " ++ reason)
  | _ => none

end IssueKind

structure Issue where
  /-- The keys that lead to the place, from the outside in. -/
  place : List Value
  kind : IssueKind

/-- What is read, or all that is wrong with it. -/
abbrev Checked (α : Type) := Except (List Issue) α

namespace Checked

variable {α : Type}

/-- One issue at the place itself. -/
def fail (kind : IssueKind) : Checked α := .error [⟨[], kind⟩]

/-- The issues of a reading. -/
def issues : Checked α → List Issue
  | .ok _ => []
  | .error issues => issues

/-- The reading of what stands under a key. -/
def under (key : Value) : Checked α → Checked α
  | .ok x => .ok x
  | .error issues => .error (issues.map fun issue => { issue with place := key :: issue.place })

end Checked

end SqlBuilder
