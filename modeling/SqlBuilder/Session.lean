import SqlBuilder.Script
import SqlBuilder.Session.Trace
import SqlBuilder.Dialect

/-!
The state of a session: one connection with its builders. Builders refer to each other by number. A draft
has a number of its own, because two builders can share one, and so have the scopes of transactions and
the scripts that builders are called with.

Every operation is a function of the state, which it leaves behind also when it fails. The scripts that
an operation calls come with its surroundings, together with a bound on how deep calls and compilations
may be nested.
-/

namespace SqlBuilder

/-- What a builder is for. -/
inductive BuilderRole where
  | query
  /-- The conditions of a group. -/
  | group
  /-- The conditions of a join. -/
  | join
  /-- The statements of a transaction, by the number of its scope. -/
  | transaction (scope : Nat)
  deriving DecidableEq, Repr

/-- What the builder is for, without its scope. -/
def BuilderRole.kind : BuilderRole → BuilderKind
  | query => .query
  | group => .group
  | join => .join
  | transaction _ => .transaction

structure Builder where
  role : BuilderRole
  /-- The number of its draft. -/
  draft : Nat
  /-- The prefix of table names. -/
  lead : Option String
  /-- Whether declarations take the place of earlier ones; kept as it was set. -/
  overwriting : Value
  /-- What makes an object of a row, or nothing. -/
  factory : Value := .null
  /-- The result of a verbatim statement that has not been fetched yet. -/
  pending : Option QueryResult := none

structure Session where
  /-- The prefix of table names that new builders start with. -/
  lead : Option String
  /-- Whether new builders overwrite. -/
  overwriting : Bool
  driver : Driver
  hooks : HookTable := []
  /-- The statement that was made last for execution. -/
  lastStatement : Option Issued := none
  builders : Array Builder := #[]
  drafts : Array Draft := #[]
  /-- How the scopes of transactions have ended, if they have. -/
  scopes : Array (Option TransactionStatus) := #[]
  scripts : Array Script := #[]
  /-- What scripts have stored, by name. -/
  stored : List (String × Value) := []
  /-- How many values have come in that are no number. Each of them has a mark of its own. -/
  unnumbered : Nat := 0
  /-- What has happened since the present call began. -/
  journal : List Entry := []
  /-- The calls of the present script that are on record. -/
  records : List Record := []

/-- What a hook is told. -/
structure HookCall where
  event : EventKind
  statement : Option Issued
  /-- The builder that executes the statement. -/
  builder : Nat
  arguments : List (Value × Value)

/-- An operation without scripts. -/
abbrev Run := ExceptT Fault (StateM Session)

/-- What an operation finds around it. -/
structure Surroundings where
  /-- Runs the script of a group on what it is called with. -/
  fill : Nat → Value → Run Unit
  /-- Runs the script of a hook. -/
  notify : String → Nat → HookCall → Run Value
  /-- How many levels of groups and unions a compilation may still go down. -/
  depth : Nat

/-- An operation of a session. -/
abbrev Act := ReaderT Surroundings Run

namespace Act

variable {α : Type}

/-- The outcome of a function without effects. -/
def lift (outcome : Except Fault α) : Act α :=
  match outcome with
  | .ok x => pure x
  | .error fault => throw fault

/-- Fails as the function does. -/
def check (outcome : Except Fault α) : Act Unit := do let _ ← lift outcome

def builder (id : Nat) : Act Builder := do
  match (← get).builders[id]? with
  | some b => pure b
  | none => throw .missingMember

def modifyBuilder (id : Nat) (f : Builder → Builder) : Act Unit :=
  modify fun s => { s with builders := s.builders.modify id f }

/-- A builder as a value. -/
def builderValue (id : Nat) : Act Value := do pure (.builder (← builder id).role.kind id)

/-- The number of the draft of a builder. -/
def draftOf (id : Nat) : Act Nat := do pure (← builder id).draft

/-- The draft with that number. -/
def draftAt (number : Nat) : Act Draft := do pure ((← get).drafts[number]?.getD {})

def modifyDraftAt (number : Nat) (f : Draft → Draft) : Act Unit :=
  modify fun s => { s with drafts := s.drafts.modify number f }

/-- The draft of a builder. -/
def draft (id : Nat) : Act Draft := do draftAt (← draftOf id)

def modifyDraft (id : Nat) (f : Draft → Draft) : Act Unit := do modifyDraftAt (← draftOf id) f

/-- A change of a draft that may fail half way. -/
def drafting (id : Nat) (change : Drafting α) : Act α := do
  let (outcome, d) := (ExceptT.run change).run (← draft id)
  modifyDraft id fun _ => d
  lift outcome

/-- A draft of its own. -/
def addDraft (d : Draft) : Act Nat := do
  let s ← get
  set { s with drafts := s.drafts.push d }
  pure s.drafts.size

def addBuilder (b : Builder) : Act Nat := do
  let s ← get
  set { s with builders := s.builders.push b }
  pure s.builders.size

/-- An empty builder of the connection. -/
def newBuilder (role : BuilderRole) : Act Nat := do
  let draft ← addDraft {}
  let s ← get
  addBuilder { role, draft, lead := s.lead, overwriting := .bool s.overwriting }

/-- An open scope. -/
def newScope : Act Nat := do
  let s ← get
  set { s with scopes := s.scopes.push none }
  pure s.scopes.size

/-- How the scope has ended, if it has. -/
def scopeStatus (scope : Nat) : Act (Option TransactionStatus) := do
  pure ((← get).scopes[scope]?.getD none)

def closeScope (scope : Nat) (status : TransactionStatus) : Act Unit :=
  modify fun s => { s with scopes := s.scopes.modify scope fun _ => some status }

/-- A note in the journal. -/
def note (entry : Entry) : Act Unit := modify fun s => { s with journal := s.journal ++ [entry] }

/-- An operation of the driver, whose calls are noted. -/
def driver (operation : Driver → Except Fault α × Driver × List WireEntry) : Act α := do
  let s ← get
  let (outcome, driver, entries) := operation s.driver
  set { s with driver, journal := s.journal ++ entries.map Entry.wire }
  lift outcome

def engine : Act Engine := do pure (← get).driver.engine

def dialect : Act Dialect := do pure (.ofEngine (← engine))

/-- A number as a value. What is no number gets a mark of its own, unless it has one. -/
def marked (x : Number.Binary64) : Act Value := do
  if x = .notANumber then
    let s ← get
    set { s with unnumbered := s.unnumbered + 1 }
    pure (.float (.marked (s.unnumbered + 1)))
  else pure (.float x)

/-- The compiled statement as it goes to the database of the connection. -/
def issued (q : Query) : Act Issued := do pure (q.issued (← get).driver.hasEscapes)

/-- The script of a group runs on what it is called with. -/
def fill (script : Nat) (target : Value) : Act Unit := do (← read).fill script target

/-- The script of a group fills a builder. -/
def fillBuilder (script builder : Nat) : Act Unit := do fill script (← builderValue builder)

end Act

end SqlBuilder
