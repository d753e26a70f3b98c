import SqlBuilder.Fault

/-!
What differs between the engines when a statement is written: the marks around identifiers, how a
number of rows is asked for, the words for an insertion that skips duplicates, and whether a projection
can be made distinct by some columns.
-/

namespace SqlBuilder

/-- How a statement asks for some of its rows. -/
inductive Paging where
  /-- `LIMIT n OFFSET m` at the end. -/
  | limitOffset
  /-- `TOP n` behind the verb, `OFFSET m ROWS FETCH NEXT k ROWS ONLY` at the end. -/
  | topFetch
  deriving DecidableEq, Repr

structure Dialect where
  engine : Engine
  openMark : Char
  closeMark : Char
  /-- Whether the tables that a statement reads stand between marks. -/
  quotesTables : Bool
  /-- The verb of an insertion that skips duplicates. -/
  ignoreVerb : String
  /-- The clause at the end of such an insertion. -/
  ignoreClause : String
  /-- Whether there is `DISTINCT ON`. -/
  hasDistinctOn : Bool
  paging : Paging
  /-- Whether there is a locking clause. -/
  locksRows : Bool

namespace Dialect

def mysql : Dialect where
  engine := .mysql
  openMark := '`'
  closeMark := '`'
  quotesTables := true
  ignoreVerb := "INSERT IGNORE"
  ignoreClause := ""
  hasDistinctOn := false
  paging := .limitOffset
  locksRows := true

def postgresql : Dialect :=
  { mysql with
    engine := .postgresql
    openMark := '"'
    closeMark := '"'
    ignoreVerb := "INSERT"
    ignoreClause := "ON CONFLICT DO NOTHING"
    hasDistinctOn := true }

def sqlite : Dialect := { mysql with engine := .sqlite, ignoreVerb := "INSERT OR IGNORE" }

def sqlserver : Dialect :=
  { mysql with
    engine := .sqlserver
    openMark := '['
    closeMark := ']'
    quotesTables := false
    paging := .topFetch
    locksRows := false }

def ofEngine : Engine → Dialect
  | .mysql => mysql
  | .postgresql => postgresql
  | .sqlite => sqlite
  | .sqlserver => sqlserver

/-- A part of an identifier between the marks; a star stands bare. -/
def quotePart (d : Dialect) (part : List Char) : List Char :=
  if Text.stripChars part = ['*'] then part else d.openMark :: part ++ [d.closeMark]

/-- An identifier, whose qualifier ends at the first dot. -/
def quoteName (d : Dialect) (name : List Char) : List Char :=
  match Text.splitFirstChars '.' name with
  | (whole, none) => d.quotePart whole
  | (qualifier, some rest) => d.quotePart qualifier ++ '.' :: d.quotePart rest

/-- A value where an identifier is expected: a fragment of SQL is taken as it is, the text of anything
else is quoted. What can be called has no text. -/
def identifier (d : Dialect) (v : Value) : Except Fault String :=
  if v.isRaw then v.written
  else if v.isCallable then throw .typeMismatch
  else do pure (String.ofList (d.quoteName (← v.written).toList))

/-- A table that a statement reads. -/
def tableName (d : Dialect) (v : Value) : Except Fault String :=
  if d.quotesTables then d.identifier v else v.written

end Dialect

end SqlBuilder
