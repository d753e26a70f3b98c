import SqlBuilder.Config
import SqlBuilder.Fault
import SqlBuilder.Yaml.Document

/-!
Where the settings of connections come from. A path that is given counts first, then the one of the
environment, then the usual place under the home directory. Settings that are nowhere are the empty ones.
-/

namespace SqlBuilder

/-- What tells where the file is. -/
structure ConfigSource where
  /-- A path that is given for this purpose. -/
  given : Option String
  /-- The path that the environment names. -/
  environment : Option String
  home : Path
  /-- The home directories of users, by name. -/
  users : List (String × Path)

/-- Why a file gives no settings. -/
inductive FileFault where
  /-- The file is no document. -/
  | malformed
  /-- The document gives no settings, for a reason in words. -/
  | refused (reason : String)
  | invalid (issues : List Issue)
  /-- The file cannot be read, or reading it has failed as if that had never been meant to happen. -/
  | failed (fault : Fault)

namespace FileFault

/-- The reason in words, with the path of the file. -/
def message? (path : Path) : FileFault → Option String
  | refused reason => some ("Failed to load connection config from " ++ path.text ++ ": " ++ reason)
  | _ => none

/-- A document that cannot be read. -/
def ofLoad (fault : Yaml.LoadFault) : FileFault :=
  match fault.message?, fault with
  | some reason, _ => refused reason
  | none, .codeTooLarge => failed .overflow
  | none, .weightTooLarge => failed .overflow
  | none, .emptyNumber => failed .outOfRange
  | none, .unknownTruth => failed .missingKey
  | none, .noDate => failed .missingMember
  | none, .dateOfCollection => failed .typeMismatch
  | none, .tooDeep => failed .tooDeep
  | none, _ => malformed

end FileFault

namespace ConfigSource

def variableName : String := "QUERYCRAFT_CONFIG"

/-- An empty text gives no path. -/
def path? (text : Option String) : Option Path := (text.filter fun text => text ≠ "").map Path.ofText

/-- The path that somebody has chosen, and how a warning calls it. -/
def chosen? (s : ConfigSource) : Except Fault (Option (String × Path)) :=
  match path? s.given, path? s.environment with
  | some path, _ => pure (some ("Explicit config", path))
  | none, some path => match path.expandHome s.home s.users with
    | some path => pure (some (variableName, path))
    | none => throw .noHome
  | none, none => pure none

/-- The usual place of the file. -/
def usual (s : ConfigSource) : Path := s.home ++ Path.ofText ".querycraft/connections.yml"

/-- Something is found at the path. -/
def exists? (tree : FileTree) (path : Path) : Except Fault Bool :=
  match tree.get? path with
  | .ok node => pure node.isSome
  | .error fault => throw fault.toFault

/-- The path of the file, if there is one, and warnings. A chosen path that leads nowhere is warned of, and
no other place is tried then. -/
def locate (s : ConfigSource) (tree : FileTree) : Except Fault (Option Path × List String) := do
  match ← s.chosen? with
  | some (lead, path) =>
    if ← exists? tree path then pure (some path, [])
    else pure (none, [lead ++ " path does not exist: " ++ path.text])
  | none => pure (if ← exists? tree s.usual then some s.usual else none, [])

end ConfigSource

namespace RootConfig

/-- The settings that a document describes. -/
def ofDocument (text : String) : Except FileFault RootConfig :=
  match Yaml.load text with
  | .error fault => throw (.ofLoad fault)
  | .ok (.map data) => match ofEntries data with
    | .ok config => pure config
    | .error .unnamed => throw (.failed .typeMismatch)
    | .error (.issues found) => throw (.invalid found)
  | .ok _ => throw (.refused "Config file must contain a YAML dictionary")

/-- The settings of the file at a path. -/
def ofFile (tree : FileTree) (path : Path) : Except FileFault RootConfig :=
  match tree.get? path with
  | .ok (some (.file text)) => ofDocument text
  | .ok (some .directory) => throw (.failed (.system "IsADirectoryError"))
  | .ok none => throw (.failed (.system "FileNotFoundError"))
  | .error fault => throw (.failed fault.toFault)

/-- The settings from where they are found, and warnings. -/
def load (source : ConfigSource) (tree : FileTree) : Except FileFault RootConfig × List String :=
  match source.locate tree with
  | .ok (some path, warnings) => (ofFile tree path, warnings)
  | .ok (none, warnings) => (pure {}, warnings)
  | .error fault => (throw (.failed fault), [])

end RootConfig

end SqlBuilder
