import SqlBuilder.Session.Method

/-!
The run of scripts. Every call of the outermost script, of hooks and of transactions is put on record with
the journal of what happened while it ran; the calls of a group are not. A failing call ends a script,
unless it is the outermost one or the failure is passed over.
-/

namespace SqlBuilder

namespace Play

variable {α : Type}

/-- The outcome of an operation, whatever it is. -/
def observe (operation : Act α) : Act (Except Fault α) :=
  tryCatch (do pure (.ok (← operation))) fun fault => pure (.error fault)

def lookup? (name : String) : Act (Option Value) := do
  pure (((← get).stored.find? fun entry => entry.1 = name).map (·.2))

def assign (name : String) (v : Value) : Act Unit :=
  modify fun s => { s with stored := (name, v) :: s.stored.filter fun entry => entry.1 ≠ name }

/-- The variable, which must have been set. -/
def lookup (name : String) : Act Value := do
  match ← lookup? name with
  | some v => pure v
  | none => throw .missingKey

/-- The operation with the value as the variable that calls are made on by default, which has its former
content afterwards. -/
def withTarget (target : Value) (operation : Act α) : Act α := do
  let former ← lookup? "it"
  assign "it" target
  let outcome ← observe operation
  if let some v := former then assign "it" v
  Act.lift outcome

/-- A script is kept under a number of its own. -/
def keepScript (script : Script) : Act Nat := do
  let s ← get
  set { s with scripts := s.scripts.push script }
  pure s.scripts.size

mutual

/-- The value of a term. -/
def value : Term → Act Value
  | .value v => match v with
    | .float x => Act.marked x
    | v => pure v
  | .list items => do pure (.list (← valuesOf items))
  | .tuple items => do pure (.tuple (← valuesOf items))
  | .map entries => do pure (.map (← entriesOf [] entries))
  | .raw content bindings => do
    let content ← value content
    pure (fragment content (← valuesOf bindings))
  | .variable name => lookup name
  | .group steps => do pure (.group (← keepScript ⟨steps, .value .null⟩))
  | .hook name steps answer => do pure (.hook name (← keepScript ⟨steps, answer⟩))

def valuesOf : List Term → Act (List Value)
  | [] => pure []
  | term :: rest => do
    let v ← value term
    let values ← valuesOf rest
    pure (v :: values)

/-- The known entries with those of the terms, each of which must have a possible key. -/
def entriesOf (known : List (Value × Value)) : List (Term × Term) → Act (List (Value × Value))
  | [] => pure known
  | (key, term) :: rest => do
    let k ← value key
    let v ← value term
    if k.isKey then entriesOf (Value.insertEntry k v known) rest else throw .typeMismatch

end

/-- The values that a call is made with. -/
def argumentsOf (inOrder : List Term) (byName : List (String × Term)) : Act Arguments := do
  let inOrder ← valuesOf inOrder
  let values ← valuesOf (byName.map (·.2))
  pure ⟨inOrder, (byName.map (·.1)).zip values⟩

/-- The statement that a builder stands for by its role. -/
def standing (id : Nat) : Act Query := do
  match (← Act.builder id).role with
  | .group => compile id (.conditions true)
  | .join => compile id (.conditions false)
  | _ => compile id .select

/-- What a step gives. A compiled statement comes with its text. -/
structure Answer where
  value : Value
  text : Option String := none

/-- What is noted about a step on the given target. -/
def report (target : Value) (answer : Answer) : Act Report := do
  match answer.value, answer.text with
  | v, some text => pure (.compiled v text)
  | .builder kind id, none => do
    pure (.builder (Value.same (.builder kind id) target) (← observe (standing id)))
  | v, none => pure (.value v)

/-- A compiled statement, which must be writable. -/
def compiled (id : Nat) (kind : Value) (extra : List Value) : Act Answer := do
  let s ← Act.issued (← compile id (← Act.lift (StatementRequest.ofArguments kind extra)))
  match s.text? with
  | some text => pure ⟨s.toValue, some text⟩
  | none => throw .typeMismatch

/-- The call of that name. -/
def call (target : Value) (method : String) (a : Arguments) : Act Answer := do
  match Call.ofConnection method a, target with
  | some call, _ => do pure ⟨← (← Act.lift call).perform, none⟩
  | none, .builder _ id => do
    match ← Act.lift (Call.ofRole (← Act.builder id).role method a) with
    | .builder call => do pure ⟨← call.perform id, none⟩
    | .connection call => do pure ⟨← call.perform, none⟩
    | .compile kind extra => compiled id kind extra
  | none, target => throw (Call.refusal target method a)

/-- The operation is put on record, with the calls that it has put on record itself if it is to have any.
Gives the fault with which it has failed. -/
def recorded (hasInner : Bool) (operation : Act Report) : Act (Option Fault) := do
  let before ← get
  set { before with journal := [], records := [] }
  let outcome ← observe operation
  let (report, fault) : Report × Option Fault := match outcome with
    | .ok report => (report, none)
    | .error fault => (.failed fault, some fault)
  let after ← get
  let record := Record.mk report (if hasInner then some after.records else none) after.journal
  set { after with journal := before.journal, records := before.records ++ [record] }
  pure fault

mutual

/-- A step is made on the target, and what it gives is kept in its variable. -/
def stepOn (target : Value) : Step → Act Answer
  | .mk method inOrder byName options inner answer => do
    let a ← argumentsOf inOrder byName
    let given ← match method with
      | "let" => match a.inOrder with
        | v :: _ => pure ⟨v, none⟩
        | [] => throw .outOfRange
      | "raise" => throw (.raised options.message)
      | "transaction" => do
        let .builder _ id := target | throw .missingMember
        let (status, v) ← Transaction.run id fun builder => do
          withTarget (← Act.builderValue builder) do
            record false inner
            value answer
        pure ⟨.transaction status v, none⟩
      | method => call target method a
    if let some name := options.result then assign name given.value
    pure given

/-- A step is made on the variable that it names. -/
def step (s : Step) : Act Answer := do
  let .mk _ _ _ options _ _ := s
  stepOn (← lookup options.target) s

/-- The steps of a script are made and put on record. -/
def record (isOutermost : Bool) : List Step → Act Unit
  | [] => pure ()
  | s :: rest => do
    let .mk method _ _ options _ _ := s
    let fault ← recorded (method = "transaction") do
      let target ← lookup options.target
      report target (← stepOn target s)
    if let some fault := fault then
      unless isOutermost || options.isCaught do throw fault
    record isOutermost rest

end

/-- The steps of a script are made. -/
def steps (script : List Step) : Act Unit := script.forM fun s => do let _ ← step s

/-- The script of a group runs on what it is called with. None of its calls is put on record. -/
def fill (script : Nat) (target : Value) : Act Unit := do
  let before ← get
  let outcome ← observe (withTarget target (steps ((before.scripts[script]?.map (·.steps)).getD [])))
  modify fun s => { s with records := before.records }
  Act.lift outcome

/-- The script of a hook runs, and the journal tells its calls. -/
def notify (name : String) (script : Nat) (call : HookCall) : Act Value := do
  let before ← get
  let some script := before.scripts[script]? | throw .missingMember
  set { before with records := [] }
  let outcome ← observe do
    withTarget (← Act.builderValue call.builder) do
      record false script.steps
      value script.answer
  modify fun after =>
    { after with
      records := before.records
      journal := after.journal ++ [.hook name call.event call.statement call.arguments after.records] }
  Act.lift outcome

/-- The scripts that operations call, down to the given depth of calls inside calls. -/
def surroundings : Nat → Surroundings
  | 0 => ⟨fun _ _ => throw .tooDeep, fun _ _ _ => throw .tooDeep, 0⟩
  | depth + 1 => {
      fill := fun script target => (fill script target).run (surroundings depth)
      notify := fun name script call => (notify name script call).run (surroundings depth)
      depth := depth + 1 }

/-- No statement needs to be nested deeper. -/
def maxDepth : Nat := 250

/-- An operation of a session, with the state that it leaves. -/
def run (operation : Act α) (s : Session) : Except Fault α × Session :=
  (operation.run (surroundings maxDepth)).run.run s

end Play

end SqlBuilder
