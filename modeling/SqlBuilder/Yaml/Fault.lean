import SqlBuilder.Number.Numeral

/-!
What can go wrong when a YAML document is read. Some faults have a reason in words. A fault of the form of
the document has none, and neither have those that end the reading as if it had never been meant to
happen.
-/

namespace SqlBuilder.Yaml

/-- Why a text gives no value. -/
inductive LoadFault where
  /-- It is not well formed, or a node is not what its kind says. -/
  | malformed
  /-- An escape gives the code of no character. -/
  | noCharacter
  /-- An escape gives a code beyond all numbers of codes. -/
  | codeTooLarge
  /-- A scalar counts as an integer and is no numeral. -/
  | numeral (fault : Number.NumeralFault)
  /-- A scalar counts as a number and is none. -/
  | number (text : String)
  /-- A scalar counts as a number and says nothing. -/
  | emptyNumber
  /-- A place of a number with the base sixty weighs more than any number. -/
  | weightTooLarge
  /-- A scalar counts as a truth value and is none. -/
  | unknownTruth
  /-- A scalar counts as a date and has not the form of one. -/
  | noDate
  /-- A collection is declared to be a date. -/
  | dateOfCollection
  /-- A date that the calendar does not have. -/
  | date (refusal : String)
  /-- The clock of a time is a day or more away from universal time. -/
  | zone (minutes : Int)
  /-- Nodes are nested too deep. -/
  | tooDeep
  deriving DecidableEq, Repr

end SqlBuilder.Yaml
