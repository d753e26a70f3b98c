import SqlBuilder.Text.Strip

/-!
Paths of files, and the files that can be seen. Of a path only its names count: neither empty names nor a
single dot lead anywhere, and two dots lead one directory out. Names are as long as a system allows.
-/

namespace SqlBuilder

/-- Why a path leads nowhere that could be looked at. -/
inductive PathFault where
  | tooLong
  | zeroInside
  deriving DecidableEq, Repr

/-- The names that lead to a file, from the root or from the working directory. -/
structure Path where
  /-- How many slashes are in front. One or two mean the root, and they are told apart when it is written. -/
  slashes : Nat
  names : List String
  deriving DecidableEq, Repr

namespace Path

/-- Three slashes and more are one. -/
def slashesOf (text : String) : Nat :=
  match (text.toList.takeWhile fun c => c = '/').length with
  | 0 => 0
  | 2 => 2
  | _ => 1

def ofText (text : String) : Path where
  slashes := slashesOf text
  names := (Text.split '/' text).filter fun name => name ≠ "" && name ≠ "."

def isAbsolute (p : Path) : Bool := p.slashes ≠ 0

/-- The path as it is written. Without any name it is the place where it starts. -/
def text (p : Path) : String :=
  if !p.isAbsolute && p.names.isEmpty then "."
  else String.ofList (List.replicate p.slashes '/') ++ Text.joined "/" p.names

/-- The path from the first one on. -/
def append (p q : Path) : Path := if q.isAbsolute then q else { p with names := p.names ++ q.names }

instance : Append Path := ⟨append⟩

/-- The path without its last name. -/
def parent (p : Path) : Path := { p with names := p.names.dropLast }

/-- A tilde in front stands for the home directory, and with a name behind it for that of a user, who must be
known. -/
def expandHome (p home : Path) (users : List (String × Path)) : Option Path :=
  match p.isAbsolute, p.names with
  | false, first :: names => match first.toList with
    | ['~'] => some { home with names := home.names ++ names }
    | '~' :: user => ((users.find? fun entry => entry.1.toList = user).map (·.2)).map fun directory =>
        { directory with names := directory.names ++ names }
    | _ => some p
  | _, _ => some p

/-- The longest name, in bytes. -/
def maxNameBytes : Nat := 255

/-- The longest path, in bytes. -/
def maxBytes : Nat := 4095

/-- The name is not too long. -/
def checkName (name : String) : Except PathFault Unit :=
  if maxNameBytes < name.utf8ByteSize then throw .tooLong else pure ()

def hasZero (p : Path) : Bool := p.names.any fun name => name.toList.contains '\x00'

/-- The path can be told to the system, as far as its text is concerned. -/
def check (p : Path) : Except PathFault Unit :=
  if p.hasZero then throw .zeroInside
  else if maxBytes < p.text.utf8ByteSize then throw .tooLong
  else pure ()

end Path

/-- Files by their names from the root on, with their texts, and directories. -/
structure FileTree where
  workingDirectory : Path
  files : List (List String × String)
  directories : List (List String)

/-- What is found at a path. -/
inductive FileNode where
  | file (text : String)
  | directory
  deriving DecidableEq, Repr

namespace FileTree

/-- The files of a working directory by their paths, and other directories. -/
def ofFiles (workingDirectory : Path) (directories : List Path) (files : List (String × String)) :
    FileTree where
  workingDirectory := workingDirectory
  files := files.map fun entry => ((workingDirectory ++ .ofText entry.1).names, entry.2)
  directories := workingDirectory.names :: directories.map (·.names)

/-- An empty working directory. -/
def empty : FileTree := ofFiles (.ofText "/work") [] []

/-- A directory is one that is known, or around one of them, or around a file. -/
def isDirectory (t : FileTree) (names : List String) : Bool :=
  t.directories.any (names.isPrefixOf ·) || t.files.any fun file => names.isPrefixOf file.1.dropLast

/-- What is found under names from a directory on. -/
def find? (t : FileTree) (directory : List String) : List String → Except PathFault (Option FileNode)
  | [] => pure (some .directory)
  | ".." :: rest => t.find? directory.dropLast rest
  | name :: rest => do
    Path.checkName name
    let names := directory ++ [name]
    if t.isDirectory names then t.find? names rest
    else match t.files.reverse.find? fun file => file.1 = names with
      | some (_, text) => pure (if rest.isEmpty then some (.file text) else none)
      | none => pure none

/-- What is found at a path. At one that holds the character zero there is nothing. -/
def get? (t : FileTree) (p : Path) : Except PathFault (Option FileNode) :=
  match p.check with
  | .ok _ => t.find? [] (t.workingDirectory ++ p).names
  | .error .zeroInside => pure none
  | .error fault => throw fault

/-- There is a directory at the path. -/
def hasDirectory (t : FileTree) (p : Path) : Bool :=
  match t.get? p with
  | .ok (some .directory) => true
  | _ => false

/-- The tree with all directories that names lead through, from a directory on. -/
def addDirectories (t : FileTree) (directory : List String) : List String → Except PathFault FileTree
  | [] => pure t
  | ".." :: rest => t.addDirectories directory.dropLast rest
  | name :: rest => do
    Path.checkName name
    let names := directory ++ [name]
    { t with directories := t.directories ++ [names] }.addDirectories names rest

/-- The tree with the directory at a path, and with those on the way there. -/
def makeDirectory (t : FileTree) (p : Path) : Except PathFault FileTree := do
  p.check
  t.addDirectories [] (t.workingDirectory ++ p).names

end FileTree

end SqlBuilder
