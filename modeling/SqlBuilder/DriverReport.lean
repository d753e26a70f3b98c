import SqlBuilder.Fault
import SqlBuilder.Number.Numeral
import SqlBuilder.Text.Case

/-!
From the report of a driver to the fault that the library raises: which category a report falls into,
and under which code it is passed on. Each engine has codes of its own.
-/

namespace SqlBuilder

namespace DriverFault

/-- The code as a number: a text of digits is read, anything else but a number counts as zero. The digits of
a text may all be ornamental, and then it cannot be read. -/
def numericCode : Value → Except Fault Value
  | .int n => pure (.int n)
  | .bool b => pure (.bool b)
  | .text s =>
    if s ≠ "" && s.toList.all Text.isDigit then
      match Number.integerOfChars 10 s.toList with
      | .ok n => pure (.int n)
      | .error (.malformed _ _) => throw (.value .notANumber)
      | .error fault => throw (.value (.numeralTooLong fault))
    else pure (.int 0)
  | _ => pure (.int 0)

/-- Codes that come with the state `23000` of a violated constraint. -/
def integrityCategory? : Int → Option FaultCategory
  | 1060 => some .duplicateColumn
  | 1061 => some .duplicateKey
  | 1062 => some .duplicateEntry
  | 1451 => some .foreignKey
  | 1452 => some .foreignKey
  | 1048 => some .notNull
  | _ => none

/-- Codes of a MySQL server, and of its client when the server cannot be reached. -/
def mysqlCategory? : Int → Option FaultCategory
  | 2002 => some .connection
  | 2005 => some .connection
  | 2013 => some .connection
  | 1045 => some .connection
  | 1146 => some .tableNotFound
  | 1054 => some .columnNotFound
  | _ => none

/-- States of a PostgreSQL server. -/
def postgresCategory? : String → Option FaultCategory
  | "42701" => some .duplicateColumn
  | "23000" => some .foreignKey
  | "23503" => some .foreignKey
  | "23505" => some .duplicateEntry
  | "23502" => some .notNull
  | "42P01" => some .tableNotFound
  | "42703" => some .columnNotFound
  | _ => none

/-- The code of SQLite for a violated constraint. -/
def sqliteConstraint : Int := 19

/-- The category of a report, and the code under which it is passed on. -/
def classify (f : DriverFault) (engine : Option Engine) : Except Fault (FaultCategory × Value) := do
  let isIntegrity := f.sqlState.same (.text "23000")
  let code ← numericCode f.code
  let number := code.asInt?.getD 0
  match engine with
  | some .mysql =>
    if isIntegrity then
      if let some category := integrityCategory? number then return (category, code)
    return ((mysqlCategory? number).getD .query, code)
  | some .sqlserver =>
    if isIntegrity then return ((integrityCategory? number).getD .query, code)
    return (.query, code)
  | some .postgresql =>
    if f.sqlState.isTruthy && !f.sqlState.isKey then throw .typeMismatch
    match f.sqlState.text?.bind postgresCategory? with
    | some category => return (category, ← numericCode f.sqlState)
    | none => return (.query, code)
  | some .sqlite =>
    if isIntegrity && number = sqliteConstraint then return (.notNull, ← numericCode f.sqlState)
    let .text message := f.message | throw .missingMember
    if Text.contains (Text.lower message) "no such table" then return (.tableNotFound, code)
    if Text.contains (Text.lower message) "no such column" then return (.columnNotFound, code)
    return (.query, code)
  | none => return (.query, code)

/-- The fault that the library raises on a report. -/
def toFault (f : DriverFault) (engine : Option Engine) (statement : Option Issued) : Fault :=
  match f.classify engine with
  | .ok (category, code) => .sql (.reported category code f statement)
  | .error fault => fault

end DriverFault

end SqlBuilder
