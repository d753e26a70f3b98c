import SqlBuilder.Engine
import SqlBuilder.Number.Numeral
import SqlBuilder.Path
import SqlBuilder.Query

/-!
What can go wrong, by cause. A fault of the library itself is a `SqlFault`; what a driver reports is a
`DriverFault`, which the library wraps into a `SqlFault` of the category that fits. The other faults
come from scripts, from values of the wrong kind, and from the connection below a driver. The wording
of each stands in one function.
-/

namespace SqlBuilder

/-- What a driver reports when the database refuses a statement. The state and the message should be texts,
and the code a number or a text, but nothing holds a database to it. -/
structure DriverFault where
  sqlState : Value
  code : Value
  message : Value

/-- The categories of faults of the library. -/
inductive FaultCategory where
  | configuration
  | connection
  | transactionClosed
  | query
  | duplicateColumn
  | duplicateKey
  | duplicateEntry
  | foreignKey
  | notNull
  | tableNotFound
  | columnNotFound
  deriving DecidableEq, Repr

namespace FaultCategory

def name : FaultCategory → String
  | configuration => "ConfigurationError"
  | connection => "SqlConnectionError"
  | transactionClosed => "TransactionClosedError"
  | query => "SqlQueryError"
  | duplicateColumn => "DuplicateColumnError"
  | duplicateKey => "DuplicateKeyError"
  | duplicateEntry => "DuplicateEntryError"
  | foreignKey => "ForeignKeyError"
  | notNull => "NotNullError"
  | tableNotFound => "TableNotFoundError"
  | columnNotFound => "ColumnNotFoundError"

/-- The wider categories that a category belongs to, the nearest first. -/
def widerNames : FaultCategory → List String
  | configuration => ["SqlError"]
  | connection => ["SqlError"]
  | transactionClosed => ["SqlError"]
  | query => ["SqlError"]
  | _ => ["SqlQueryError", "SqlError"]

end FaultCategory

/-- The faults of the library. -/
inductive SqlFault where
  /-- There is no statement kind of that name. -/
  | unknownKind (kind : String)
  | noData
  | noTable
  | distinctOnUnsupported (engine : Engine)
  | noConnection
  | unregistered (name : String)
  | scopeClosed (status : TransactionStatus)
  /-- An aggregate over a column that the select list leaves out. -/
  | columnNotSelected (column : String)
  /-- A report of the driver, with the statement that was being executed. -/
  | reported (category : FaultCategory) (code : Value) (cause : DriverFault) (statement : Option Issued)

namespace SqlFault

def category : SqlFault → FaultCategory
  | unknownKind _ => .configuration
  | noData => .configuration
  | noTable => .configuration
  | distinctOnUnsupported _ => .configuration
  | noConnection => .connection
  | unregistered _ => .connection
  | scopeClosed _ => .transactionClosed
  | columnNotSelected _ => .columnNotFound
  | reported category _ _ _ => category

def message : SqlFault → Value
  | unknownKind kind => .text (kind ++ " is not a known type.")
  | noData => .text "No data given."
  | noTable => .text "No table selected"
  | distinctOnUnsupported engine => .text ("DISTINCT ON is not supported by " ++ engine.name)
  | noConnection => .text "No database connection found."
  | unregistered name => .text ("Connection '" ++ name ++ "' is not registered")
  | scopeClosed status => .text ("Transaction already " ++ status.name)
  | columnNotSelected column =>
    .text ("Failed to count query - the column " ++ column ++ " hasn't been selected in the query.")
  | reported _ _ cause _ => cause.message

def code : SqlFault → Value
  | unknownKind _ => .int 1
  | noData => .int 4
  | noConnection => .int 404
  | unregistered _ => .int 404
  | reported _ code _ _ => code
  | _ => .int 0

/-- The statement that was being executed. -/
def statement? : SqlFault → Option Issued
  | reported _ _ _ statement => statement
  | _ => none

/-- The report that the fault stems from. -/
def cause? : SqlFault → Option DriverFault
  | reported _ _ cause _ => some cause
  | _ => none

/-- The fault as a log shows it. -/
def shown (f : SqlFault) : String :=
  f.category.name ++ "(message=" ++ f.message.shown ++ ", code=" ++ f.code.shown ++ ")"

end SqlFault

/-- The report as a log shows it. -/
def DriverFault.shown (f : DriverFault) : String :=
  "DriverError(sql_state=" ++ f.sqlState.shown ++ ", driver_code=" ++ f.code.shown ++
    ", message=" ++ f.message.shown ++ ")"

/-- Values that have the right type and are refused nevertheless. -/
inductive ValueFault where
  | unknownEvent (shown : String)
  | unknownUnion (shown : String)
  | unknownStyle (name : String)
  | databaseMissing
  /-- A connection to an engine that only a driver factory can open. -/
  | factoryMissing (connection : String) (engine : Engine)
  /-- Two parts were expected of a pair. -/
  | tooFewParts (count : Nat)
  | tooManyParts
  /-- A pair was expected at a place among others. -/
  | pairExpected (place length : Nat)
  /-- A numeral that cannot be read, or a number that has no integer. -/
  | notANumber
  /-- A numeral with more digits than are read. -/
  | numeralTooLong (fault : Number.NumeralFault)
  /-- A path that holds the character zero. -/
  | zeroInPath
  deriving DecidableEq, Repr

namespace ValueFault

/-- The text of the fault, if it has one of its own. -/
def message? : ValueFault → Option String
  | unknownEvent shown => some (shown ++ " is not a valid EventKind")
  | unknownUnion shown => some (shown ++ " is not a valid UnionType")
  | unknownStyle name => some ("Unsupported paramstyle '" ++ name ++
      "'. Expected one of: qmark, format, pyformat, numeric, named")
  | databaseMissing => some "SQLite requires 'database' parameter"
  | factoryMissing connection engine => some ("Connection '" ++ connection ++ "' uses " ++ engine.name ++
      "; pass a driver_factory to open it")
  | tooFewParts count => some ("not enough values to unpack (expected 2, got " ++ toString count ++ ")")
  | tooManyParts => some "too many values to unpack (expected 2)"
  | pairExpected place length => some ("dictionary update sequence element #" ++ toString place ++
      " has length " ++ toString length ++ "; 2 is required")
  | notANumber => none
  | numeralTooLong fault => some fault.message
  | zeroInPath => some "embedded null byte"

end ValueFault

/-- Whatever ends a call. -/
inductive Fault where
  | sql (fault : SqlFault)
  | driver (fault : DriverFault)
  /-- Raised by a script. -/
  | raised (message : String)
  | value (fault : ValueFault)
  /-- The driver was told to work after it was closed. -/
  | closed (message : String)
  | typeMismatch
  | missingMember
  | missingKey
  | outOfRange
  | overflow
  /-- Calls or values are nested too deep. -/
  | tooDeep
  /-- Nobody knows the home directory that a path begins with. -/
  | noHome
  /-- A refusal of the operating system, by its class. -/
  | system (className : String)
  /-- A failure of the wrapped connection that the driver has let through, by its class. -/
  | foreign (className : String)

namespace Fault

/-- The text of a fault that comes from none of the library, its driver and the scripts, if it has one. -/
def runtimeText? : Fault → Option String
  | closed message => some message
  | noHome => some "Could not determine home directory."
  | tooDeep => some "maximum recursion depth exceeded while calling a Python object"
  | _ => none

end Fault

/-- A path that leads nowhere as whatever ends a call. -/
def PathFault.toFault : PathFault → Fault
  | tooLong => .system "OSError"
  | zeroInside => .value .zeroInPath

/-- The text that a value is written as. -/
def Value.written (v : Value) : Except Fault String :=
  match v.written? with
  | some s => pure s
  | none => throw .typeMismatch

end SqlBuilder
