/-!
The database engines whose dialects are spoken, and the names they go by.
-/

namespace SqlBuilder

inductive Engine where
  | mysql
  | postgresql
  | sqlite
  | sqlserver
  deriving DecidableEq, Repr, Inhabited

namespace Engine

def all : List Engine := [mysql, postgresql, sqlite, sqlserver]

def name : Engine → String
  | mysql => "mysql"
  | postgresql => "postgresql"
  | sqlite => "sqlite"
  | sqlserver => "sqlserver"

def ofName? (s : String) : Option Engine := all.find? fun engine => engine.name == s

end Engine

end SqlBuilder
