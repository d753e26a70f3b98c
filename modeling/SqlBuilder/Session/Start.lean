import SqlBuilder.Config
import SqlBuilder.Path
import SqlBuilder.Registry
import SqlBuilder.Session.Play

/-!
The start of sessions. A connection with settings tells the database its character set and its search path
before anything else. A driver is given, or it opens a database file first.
-/

namespace SqlBuilder

/-- Where the driver of a connection comes from. -/
inductive DriverSource where
  | given (driver : Driver)
  /-- A database file is opened, which may fail. -/
  | file (driver : SqliteDriver) (failure : Option SqliteFailure)

/-- An opened driver, the calls that were made for it, and the directories. -/
structure Opening where
  outcome : Except Fault Driver
  entries : List WireEntry
  tree : FileTree

namespace ConnectionConfig

/-- The settings of the database that the options ask for. -/
def pragmas (c : ConnectionConfig) : Except Fault (List (Value × Value)) :=
  match Value.lookup? (.text "sqlite_pragmas") c.options with
  | none => pure []
  | some v => if v.isTruthy then Entries.ofValue v else pure []

/-- The working directory with the directory of the database file. -/
def directoriesFor (path : String) : Except PathFault FileTree :=
  if SqliteDriver.isFilePath path then FileTree.empty.makeDirectory (Path.ofText path).parent
  else pure .empty

/-- Opens the database file of the settings, after its directory has been made. -/
def openFile (c : ConnectionConfig) (driver : SqliteDriver) (failure : Option SqliteFailure) : Opening :=
  match c.database with
  | none => ⟨.error (.value .databaseMissing), [], .empty⟩
  | some path => match directoriesFor path with
    | .error fault => ⟨.error fault.toFault, [], .empty⟩
    | .ok tree =>
      let (outcome, driver, entries) := (SqliteDriver.connect path failure c.pragmas).run driver
      ⟨outcome.map fun _ => .sqlite driver, entries, tree⟩

/-- What is told to the database at first. -/
def greetings (c : ConnectionConfig) (engine : Engine) : List String :=
  (match c.charset with
    | some charset =>
      if charset ≠ "" && (engine = .mysql || engine = .postgresql) then ["SET NAMES '" ++ charset ++ "'"]
      else []
    | none => []) ++
  (match c.searchPath with
    | some path => if path ≠ "" && engine = .postgresql then ["SET search_path TO '" ++ path ++ "'"] else []
    | none => [])

end ConnectionConfig

namespace DriverSource

/-- The driver for a connection. Without settings there is no file to open. -/
def opening (source : DriverSource) (config : Option ConnectionConfig) : Opening :=
  match source, config with
  | given driver, _ => ⟨.ok driver, [], .empty⟩
  | file driver failure, some c => c.openFile driver failure
  | file _ _, none => ⟨.error .missingMember, [], .empty⟩

end DriverSource

namespace Session

/-- A session with a driver, before anything has happened. -/
def ofDriver (driver : Driver) (config : Option ConnectionConfig) : Session where
  lead := config.bind (·.lead)
  overwriting := (config.map (·.overwriting)).getD false
  driver := driver

/-- A statement of the beginning, which is the one that a fault tells of. -/
def greet (sql : String) : Act Unit :=
  tryCatch (do let _ ← Act.driver fun d => d.execute (.text sql) []) fun
    | .driver fault => do
      throw (fault.toFault (some (← Act.engine)) (some (← Act.issued (.plain sql))))
    | fault => throw fault

/-- The connection is set up, and the first builder is made. -/
def start (config : Option ConnectionConfig) : Act Unit := do
  if let some c := config then (c.greetings (← Act.engine)).forM greet
  Play.assign "it" (← Act.builderValue (← Act.newBuilder .query))

end Session

/-- A connection that was set up, or how that failed, with the journal of the calls. -/
structure Started where
  outcome : Except Fault Session
  journal : List Entry
  tree : FileTree

namespace Started

/-- Opens the driver and sets up the connection. -/
def ofSource (source : DriverSource) (config : Option ConnectionConfig) : Started :=
  let opening := source.opening config
  let opened := opening.entries.map Entry.wire
  match opening.outcome with
  | .error fault => ⟨.error fault, opened, opening.tree⟩
  | .ok driver =>
    let (outcome, s) := Play.run (Session.start config) (.ofDriver driver config)
    ⟨outcome.map fun _ => { s with journal := [] }, opened ++ s.journal, opening.tree⟩

end Started

namespace Session

/-- The records of a script that runs from the given state on. -/
def play (s : Session) (script : List Step) : List Record :=
  (Play.run (Play.record true script) { s with records := [] }).2.records

end Session

namespace RootConfig

/-- A connection of a registry. -/
structure OpenConnection where
  config : ConnectionConfig
  session : Session

/-- How the connections of a registry are opened. -/
inductive Opener where
  /-- A factory opens each of them by its name. -/
  | factory (driver : String → ConnectionConfig → Driver)
  /-- Database files are opened directly, and anything else is refused. -/
  | files (driver : SqliteDriver) (failure : Option SqliteFailure)

/-- Opens one connection. -/
def openOne (opener : Opener) (name : String) (c : ConnectionConfig) : Started :=
  match opener with
  | .factory driver =>
    let started := Started.ofSource (.given (driver name c)) (some c)
    { started with journal := .wire (.opened name c.engine) :: started.journal }
  | .files driver failure =>
    if c.engine = .sqlite then Started.ofSource (.file driver failure) (some c)
    else ⟨.error (.value (.factoryMissing name c.engine)), [], .empty⟩

/-- Opens the connections in order, up to the first that fails, and adds them to the registry. -/
def openAll (opener : Opener) :
    List (String × ConnectionConfig) → Registry OpenConnection →
      Except Fault (Registry OpenConnection) × List Entry
  | [], registry => (.ok registry, [])
  | (name, c) :: rest, registry =>
    let started := openOne opener name c
    match started.outcome.bind fun session => registry.add (.text name) ⟨c, session⟩ false with
    | .error fault => (.error fault, started.journal)
    | .ok registry =>
      let (outcome, journal) := openAll opener rest registry
      (outcome, started.journal ++ journal)

/-- Opens all connections and chooses the default that is configured. An empty name chooses none. -/
def buildRegistry (config : RootConfig) (opener : Opener) :
    Except Fault (Registry OpenConnection) × List Entry :=
  let (outcome, journal) := openAll opener config.connections {}
  match config.defaultConnection with
  | none => (outcome, journal)
  | some "" => (outcome, journal)
  | some name => (outcome.bind fun registry => registry.setDefault (.text name), journal)

end RootConfig

end SqlBuilder
