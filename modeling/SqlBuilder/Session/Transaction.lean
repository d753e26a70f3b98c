import SqlBuilder.Session.Execute

/-!
Transactions. The script of a transaction works on a builder with a scope, and every builder that stems
from it shares the scope. The script may end the transaction itself; otherwise it is committed when the
script returns and rolled back when the script fails. A transaction inside another one has a scope of
its own and leaves the beginning to the outer one.
-/

namespace SqlBuilder

namespace Transaction

variable {α : Type}

/-- The driver is told to end the transaction, and the scope is closed if it does. -/
def finish (id : Nat) (status : TransactionStatus) : Act Unit := do
  Execute.requireOpen id
  Execute.reported (match status with
    | .committed => Driver.commit
    | .rolledBack => Driver.rollback)
  if let .transaction scope := (← Act.builder id).role then Act.closeScope scope status

/-- The builder of a transaction starts with a copy of what the given builder declares. -/
def builderFor (id scope : Nat) : Act Nat := do
  let fresh ← Act.newBuilder (.transaction scope)
  let copy ← Act.builder (← Declare.clone (← read).depth id)
  Act.modifyBuilder fresh fun b => { b with draft := copy.draft }
  pure fresh

/-- The driver still has a transaction open that belongs to the scope. -/
def isPending (scope : Nat) : Act Bool := do
  pure ((← get).driver.inTransaction && (← Act.scopeStatus scope).isNone)

/-- After a failure the transaction is rolled back once. A report of the driver about that is noted as a
warning, so that the failure itself is raised. -/
def abandon (scope : Nat) : Act Unit := do
  if ← isPending scope then
    tryCatch (Act.driver Driver.rollback) fun
      | .driver fault => do
        Act.note (.wire (.warn ("Rollback failed: " ++ (← Act.lift fault.message.written))))
      | fault => throw fault

/-- When the script has returned, a scope that it has left open is closed: by a commit, if the driver has
a transaction open. -/
def conclude (id scope : Nat) : Act Unit := do
  if (← Act.scopeStatus scope).isNone then
    if (← get).driver.inTransaction then finish id .committed
    else Act.closeScope scope .committed

/-- Runs a script in a transaction, and gives how it has ended beside what the script returned. -/
def run (id : Nat) (script : Nat → Act α) : Act (TransactionStatus × α) := do
  let scope ← Act.newScope
  let builder ← builderFor id scope
  unless (← get).driver.inTransaction do Execute.reported Driver.begin
  let outcome ← tryCatch (do pure (Except.ok (← script builder))) fun fault => pure (Except.error fault)
  match outcome with
  | .error fault =>
    abandon scope
    throw fault
  | .ok answer =>
    conclude builder scope
    pure ((← Act.scopeStatus scope).getD .committed, answer)

/-- Runs a batch of insertions on the builder, inside a transaction if none is open. -/
def batch (id : Nat) (rows : Nat → Act (List Value)) : Act Value := do
  if (← get).driver.inTransaction then do pure (.list (← rows id))
  else do pure (.list (← run id rows).2)

mutual

/-- The insertion of a row, or of the rows of a sequence. Texts and bytes are sequences too, but hold no
rows: the parts of a text are texts again without end, and those of bytes are numbers. -/
def insert (verb : InsertVerb) (id : Nat) : Value → Act Value
  | .map entries => Execute.insertRow id verb (.map entries)
  | .list items => batch id fun builder => insertAll verb builder items
  | .tuple items => batch id fun builder => insertAll verb builder items
  | .set items => batch id fun builder => insertAll verb builder items
  | .text s => batch id fun _ => if s = "" then pure [] else throw .tooDeep
  | .bytes content => batch id fun _ => if content.isEmpty then pure [] else throw .typeMismatch
  | _ => throw .typeMismatch

def insertAll (verb : InsertVerb) (id : Nat) : List Value → Act (List Value)
  | [] => pure []
  | v :: rest => do
    let answer ← insert verb id v
    let answers ← insertAll verb id rest
    pure (answer :: answers)

end

/-- Changes the rows that the builder selects, or inserts one if there are none. -/
def updateOrInsert (id : Nat) (data : Value) : Act Value := do
  let probe ← Declare.clone (← read).depth id
  if (← Execute.first probe).isNull then insert .insert id data
  else do pure (← Execute.update id data).toValue

end Transaction

end SqlBuilder
