import SqlBuilder.Config.Integer
import SqlBuilder.Engine
import SqlBuilder.Text.Case

/-!
The settings of connections. They are read from data that may come from a file, so numbers and truth values
may also be written as text. Readings do not stop at the first issue.
-/

namespace SqlBuilder

/-- The settings of one connection. -/
structure ConnectionConfig where
  engine : Engine := .mysql
  database : Option String := none
  host : Option String := none
  port : Option Int := none
  username : Option String := none
  password : Option String := none
  charset : Option String := none
  searchPath : Option String := none
  unixSocket : Option String := none
  /-- Further settings of the driver, by name. -/
  options : List (Value × Value) := []
  /-- What stands in front of every table name. -/
  lead : Option String := none
  overwriting : Bool := false

/-- The settings of all connections. -/
structure RootConfig where
  version : String := "1.0"
  connections : List (String × ConnectionConfig) := []
  /-- The connection of builders that name none. -/
  defaultConnection : Option String := none

/-- Why data gives no settings. -/
inductive ConfigFault where
  /-- A setting is not given by a name. -/
  | unnamed
  | issues (found : List Issue)

namespace Config

/-- The text that bytes encode. -/
def textOfBytes? (content : List UInt8) : Option String := String.fromUTF8? ⟨content.toArray⟩

/-- A text may be given by its bytes. -/
def text : Value → Checked String
  | .text s => .ok s
  | .surrogates s => .ok s
  | .bytes content => match textOfBytes? content with
    | some s => .ok s
    | none => .fail .unknownCharacters
  | _ => .fail .textExpected

/-- A text that may be absent. -/
def text? : Value → Checked (Option String)
  | .null => .ok none
  | v => (text v).map some

/-- The engine by its name or by a short name, in whatever case. -/
def engine : Value → Checked Engine
  | .text s =>
    let name := match Text.lower (Text.strip s) with
      | "pgsql" => "postgresql"
      | "postgres" => "postgresql"
      | "mssql" => "sqlserver"
      | name => name
    match Engine.ofName? name with
    | some engine => .ok engine
    | none => .fail .unknownEngine
  | .surrogates _ => .fail .unknownCharacters
  | _ => .fail .unknownEngine

/-- The integers that a machine holds in a word. -/
def isWord (i : Int) : Bool := -9223372036854775808 ≤ i && i ≤ 9223372036854775807

/-- The integer of a text. -/
def integerText (s : String) : Checked Int := (integerOfText s).mapError fun kind => [⟨[], kind⟩]

/-- An integer may be given by a text, by its bytes, and by a number without a fraction. -/
def integer : Value → Checked Int
  | .int i => .ok i
  | .bool b => .ok (if b then 1 else 0)
  | .float x => match x.truncate? with
    | none => .fail .notFinite
    | some i =>
      if !x.isIntegral then .fail .fraction
      else if isWord i && i ≠ -9223372036854775808 then .ok i
      else .fail .numeralTooLong
  | .text s => integerText s
  | .surrogates _ => .fail .unknownCharacters
  | .bytes content => match textOfBytes? content with
    | some s => integerText s
    | none => .fail .numeralExpected
  | _ => .fail .integerExpected

/-- The number of a port, which may be absent. -/
def port? : Value → Checked (Option Int)
  | .null => .ok none
  | v => do
    let i ← integer v
    if i < 1 then .fail .tooSmall
    else if 65535 < i then .fail .tooLarge
    else .ok (some i)

/-- The truth value that a text stands for. -/
def flagText (s : String) : Checked Bool :=
  let name := String.ofList (s.toList.map Char.toLower)
  if ["0", "off", "f", "false", "n", "no"].contains name then .ok false
  else if ["1", "on", "t", "true", "y", "yes"].contains name then .ok true
  else .fail .unknownFlag

/-- The truth value that an integer stands for. -/
def flagInteger (i : Int) : Checked Bool :=
  if i = 0 then .ok false else if i = 1 then .ok true else .fail .unknownFlag

def flag : Value → Checked Bool
  | .bool b => .ok b
  | .int i => if isWord i then flagInteger i else .fail .flagExpected
  | .float x => match integer (.float x) with
    | .ok i => flagInteger i
    | .error _ => .fail .flagExpected
  | .text s => flagText s
  | .surrogates _ => .fail .unknownCharacters
  | .bytes content => match textOfBytes? content with
    | some s => flagText s
    | none => .fail .unknownFlag
  | _ => .fail .flagExpected

/-- How a key appears in a place: a text or a small integer as it is, anything else as it is shown. -/
def placeKey : Value → Value
  | .text s => .text s
  | .bool b => .int (if b then 1 else 0)
  | .int i => if isWord i then .int i else .text (toString i)
  | v => .text v.shown

/-- A key as a text. -/
def keyText (key : Value) : Checked String := ((text key).under (.text "[key]")).under (placeKey key)

/-- The further settings, of whatever values. -/
def options : Value → Checked (List (Value × Value))
  | .map entries =>
    match entries.flatMap fun entry => (keyText entry.1).issues with
    | [] => do
      let named ← entries.mapM fun entry => do pure (Value.text (← keyText entry.1), entry.2)
      pure (Value.entriesOf named)
    | issues => .error issues
  | _ => .fail .mappingExpected

/-- The reading of an entry, or what stands for it if there is none. -/
def field {α : Type} (data : List (Value × Value)) (name : String) (default : α)
    (read : Value → Checked α) : Checked α :=
  match Value.lookup? (.text name) data with
  | none => .ok default
  | some v => (read v).under (.text name)

/-- The port of an engine's servers. -/
def defaultPort? : Engine → Option Int
  | .mysql => some 3306
  | .postgresql => some 5432
  | .sqlserver => some 1433
  | .sqlite => none

/-- A text that says something. -/
def isGiven (s : Option String) : Bool := s.any fun s => s ≠ ""

/-- A connection needs a database file or a server. The port of a server has a default. -/
def completed (c : ConnectionConfig) : Checked ConnectionConfig :=
  match c.engine with
  | .sqlite =>
    if isGiven c.database then .ok c
    else .fail (.inconsistent "SQLite requires 'database' parameter")
  | engine =>
    if isGiven c.host || isGiven c.unixSocket then
      .ok { c with port := c.port.or (defaultPort? engine) }
    else .fail (.inconsistent (engine.name ++ " requires 'host' parameter"))

/-- The settings of a connection from the entries of a mapping. Entries that are not known are passed over. -/
def connectionOf (data : List (Value × Value)) : Checked ConnectionConfig := do
  let engine := field data "driver" Engine.mysql engine
  let database := field data "database" none text?
  let host := field data "host" none text?
  let port := field data "port" none port?
  let username := field data "username" none text?
  let password := field data "password" none text?
  let charset := field data "charset" none text?
  let searchPath :=
    if (Value.lookup? (.text "schema") data).isSome then field data "schema" none text?
    else field data "search_path" none text?
  let unixSocket := field data "unix_socket" none text?
  let options := field data "options" [] options
  let lead := field data "prefix" none text?
  let overwriting := field data "query_overwriting" false flag
  let issues := engine.issues ++ database.issues ++ host.issues ++ port.issues ++ username.issues ++
    password.issues ++ charset.issues ++ searchPath.issues ++ unixSocket.issues ++ options.issues ++
    lead.issues ++ overwriting.issues
  if issues.isEmpty then
    completed {
      engine := ← engine, database := ← database, host := ← host, port := ← port
      username := ← username, password := ← password, charset := ← charset
      searchPath := ← searchPath, unixSocket := ← unixSocket, options := ← options
      lead := ← lead, overwriting := ← overwriting }
  else .error issues

/-- The settings of a connection from any value. -/
def connection : Value → Checked ConnectionConfig
  | .map data => connectionOf data
  | _ => .fail .recordExpected

/-- The settings of a connection under its name. -/
def namedConnection (entry : Value × Value) : Checked (String × ConnectionConfig) :=
  let name := keyText entry.1
  let settings := (connection entry.2).under (placeKey entry.1)
  match name, settings with
  | .ok name, .ok c => .ok (name, c)
  | _, _ => .error (name.issues ++ settings.issues)

/-- The settings with those of one more connection: an equal name keeps its place. -/
def insertNamed (name : String) (c : ConnectionConfig) :
    List (String × ConnectionConfig) → List (String × ConnectionConfig)
  | [] => [(name, c)]
  | (n, d) :: rest => if name = n then (n, c) :: rest else (n, d) :: insertNamed name c rest

/-- The connections by name. Of two with the same name, one of which may be given by its bytes, the later
one counts. -/
def connections : Value → Checked (List (String × ConnectionConfig))
  | .map entries => do
    let readings := entries.map namedConnection
    match readings.flatMap Checked.issues with
    | [] => do
      pure ((← readings.mapM id).foldl (fun known entry => insertNamed entry.1 entry.2 known) [])
    | issues => .error issues
  | _ => .fail .mappingExpected

/-- The name of the default connection, which must be one of the given names. -/
def defaultAmong (names : List String) : Option String → Checked (Option String)
  | none => .ok none
  | some name =>
    if names.contains name then .ok (some name)
    else .fail (.inconsistent ("default_connection '" ++ name ++
      "' not found in connections. Available connections: " ++ Text.joined ", " names))

/-- The settings of all connections from the entries of a mapping. Where connections have issues, none of
them counts as a possible default. -/
def rootOf (data : List (Value × Value)) : Checked RootConfig := do
  let version := field data "version" "1.0" text
  let connections := field data "connections" [] connections
  let names := match connections with
    | .ok connections => connections.map (·.1)
    | .error _ => []
  let defaultConnection := field data "default_connection" none fun v => do
    defaultAmong names (← text? v)
  let issues := version.issues ++ connections.issues ++ defaultConnection.issues
  if issues.isEmpty then
    pure {
      version := ← version, connections := ← connections
      defaultConnection := ← defaultConnection }
  else .error issues

/-- A key that can be a name. -/
def isName : Value → Bool
  | .text _ => true
  | .surrogates _ => true
  | _ => false

/-- Settings are given by name, so other keys are refused before anything is read. -/
def named {α : Type} (read : List (Value × Value) → Checked α) (data : List (Value × Value)) :
    Except ConfigFault α :=
  if data.all fun entry => isName entry.1 then (read data).mapError ConfigFault.issues
  else throw .unnamed

end Config

/-- Some of the settings can never be told in full. -/
def RootConfig.isEndless (c : RootConfig) : Bool :=
  c.connections.any fun entry => (Value.map entry.2.options).neverEnds

/-- The settings of a connection by their names. -/
def ConnectionConfig.ofEntries (data : List (Value × Value)) : Except ConfigFault ConnectionConfig :=
  Config.named Config.connectionOf data

/-- The settings of all connections by their names. -/
def RootConfig.ofEntries (data : List (Value × Value)) : Except ConfigFault RootConfig :=
  Config.named Config.rootOf data

end SqlBuilder
