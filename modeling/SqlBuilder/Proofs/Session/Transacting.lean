import SqlBuilder.Proofs.Session.Executing

/-!
Relations between states that transactions keep, and with them all that builders and connections do when they are
called.
-/

namespace SqlBuilder

open Act Session

variable {α β : Type} {env : Surroundings} {R : Session → Session → Prop}

/-- The note tells of no call of the driver. -/
def Entry.IsRemark : Entry → Prop
  | .wire (.warn _) => True
  | .wire _ => False
  | .hook _ _ _ _ _ => True

namespace Session

def noted (s : Session) (entry : Entry) : Session := { s with journal := s.journal ++ [entry] }

def opened (s : Session) : Session := { s with scopes := s.scopes.push none }

def closing (s : Session) (scope : Nat) (status : TransactionStatus) : Session :=
  { s with scopes := s.scopes.modify scope fun _ => some status }

/-- The session without the journal and the records of the present call. -/
def aside (s : Session) : Session := { s with journal := [], records := [] }

/-- The later session with the journal and the records of this one, and a record of what has happened since. -/
def resumed (s t : Session) (report : Report) (inner : Option (List Record)) : Session :=
  { t with journal := s.journal, records := s.records ++ [.mk report inner t.journal] }

end Session

/-- The relation is kept by the execution of statements and by the beginning and the end of transactions. -/
class Surroundings.Encloses (R : Session → Session → Prop) (env : Surroundings) : Prop extends env.Sends R where
  called : ∀ (c : DriverCall) (s : Session), R s (s.called c)
  noted : ∀ (s : Session) (entry : Entry), entry.IsRemark → R s (s.noted entry)
  opened : ∀ s : Session, R s s.opened
  /-- The driver ends the transaction for a scope that has not ended. -/
  ended : ∀ (s : Session) (scope : Nat) (status : TransactionStatus), s.scopes[scope]?.getD none = none →
    status.call.Succeeds s.driver → R s ((s.called status.call).closing scope status)
  /-- The scope is closed although the driver has no transaction open. -/
  assumed : ∀ (s : Session) (scope : Nat), s.scopes[scope]?.getD none = none → s.driver.inTransaction = false →
    R s (s.closing scope .committed)

/-- The relation is kept by all that transactions and the scripts inside them are made of. -/
class Surroundings.Transacts (R : Session → Session → Prop) (env : Surroundings) : Prop
    extends env.Executes R, env.Encloses R where
  resumed : ∀ (s t : Session) (report : Report) (inner : Option (List Record)), R s.aside t →
    R s (s.resumed t report inner)

namespace Transaction

/-! ### The course of a transaction -/

/-- The part of a transaction behind its beginning. -/
def begun (scope builder : Nat) (script : Nat → Act α) : Act (TransactionStatus × α) := do
  let outcome ← tryCatch (do pure (Except.ok (← script builder))) fun fault => pure (Except.error fault)
  match outcome with
  | .error fault =>
    abandon scope
    throw fault
  | .ok answer =>
    conclude builder scope
    pure ((← Act.scopeStatus scope).getD .committed, answer)

/-- The script of a transaction is called on that builder and in that state: in the transaction that the driver has
open already, or in one that the driver has begun for it. -/
inductive Starts (env : Surroundings) (id : Nat) (s : Session) (builder : Nat) : Session → Prop where
  | shared {t : Session} (hcopy : (builderFor id s.scopes.size).exec env s.opened = (.ok builder, t))
      (hin : t.driver.inTransaction = true) : Starts env id s builder t
  | begun {t u : Session} (hcopy : (builderFor id s.scopes.size).exec env s.opened = (.ok builder, t))
      (hout : t.driver.inTransaction = false) (hbegin : (Execute.reported Driver.begin).exec env t = (.ok (), u)) :
      Starts env id s builder u

variable {id builder scope : Nat} {s t : Session} {script : Nat → Act α}

/-- Until the script is called nothing depends on it. -/
theorem run_eq : run id script = (do
    let scope ← Act.newScope
    let builder ← builderFor id scope
    unless (← get).driver.inTransaction do Execute.reported Driver.begin
    begun scope builder script) := rfl

theorem exec_run_of_starts (h : Starts env id s builder t) :
    (run id script).exec env s = (begun s.scopes.size builder script).exec env t := by
  have hnew : Act.newScope.exec env s = (.ok s.scopes.size, s.opened) := rfl
  rw [run_eq, exec_bind_ok hnew]
  cases h with
  | shared hcopy hin =>
      rw [exec_bind_ok hcopy, exec_bind, exec_get]
      dsimp only
      rw [if_pos hin]
  | begun hcopy hout hbegin =>
      rw [exec_bind_ok hcopy, exec_bind, exec_get]
      dsimp only
      rw [if_neg (Bool.eq_false_iff.mp hout), exec_bind_ok hbegin]

/-- The script comes to its end before anything else is done. -/
theorem exec_begun : (begun scope builder script).exec env t =
    match (script builder).exec env t with
    | (.error fault, u) => (do
        abandon scope
        throw fault : Act (TransactionStatus × α)).exec env u
    | (.ok answer, u) => (do
        conclude builder scope
        pure ((← Act.scopeStatus scope).getD .committed, answer) : Act (TransactionStatus × α)).exec env u := by
  unfold begun
  rw [exec_bind_ok (exec_observed _)]
  rcases (script builder).exec env t with ⟨outcome, u⟩
  cases outcome with
  | ok answer => rfl
  | error fault => rfl

/-- The driver rolls back, and its reports about that are only noted. -/
def rollBackQuietly : Act Unit :=
  tryCatch (Act.driver Driver.rollback) fun
    | .driver fault => do
      Act.note (.wire (.warn ("Rollback failed: " ++ (← Act.lift fault.message.written))))
    | fault => throw fault

theorem exec_abandon : (abandon scope).exec env s =
    if s.driver.inTransaction && (s.scopes[scope]?.getD none).isNone then rollBackQuietly.exec env s
    else (.ok (), s) := by
  have hpending : (isPending scope).exec env s =
      (.ok (s.driver.inTransaction && (s.scopes[scope]?.getD none).isNone), s) := rfl
  unfold abandon
  rw [exec_bind_ok hpending]
  split
  · rfl
  · rfl

/-- The end of a transaction is not even tried without a builder or behind the end of its scope. -/
theorem exec_finish_stops {fault : Fault} (status : TransactionStatus)
    (h : (Execute.requireOpen id).exec env s = (.error fault, s)) :
    (finish id status).exec env s = (.error fault, s) := exec_bind_error h

theorem exec_finish {b : Builder} (status : TransactionStatus) (hb : s.builders[id]? = some b)
    (hopen : (Execute.requireOpen id).exec env s = (.ok (), s)) : (finish id status).exec env s =
      match (status.call.on s.driver).1 with
      | .ok _ => (.ok (), match b.role with
        | .transaction scope => (s.called status.call).closing scope status
        | _ => s.called status.call)
      | .error fault => (.error ((s.called status.call).raised fault), s.called status.call) := by
  have hbuilder : (s.called status.call).builders[id]? = some b := hb
  unfold finish
  rw [exec_bind_ok hopen, exec_bind, Execute.exec_reported_call status.call ?_]
  · cases (status.call.on s.driver).1 with
    | ok x =>
        dsimp only
        rw [exec_bind_ok (exec_builder_of_some hbuilder)]
        cases b.role with
        | transaction scope => rfl
        | _ => rfl
    | error fault => rfl
  · intro d
    cases status with
    | committed => rfl
    | rolledBack => rfl

theorem exec_conclude : (conclude id scope).exec env s =
    if (s.scopes[scope]?.getD none).isNone then
      if s.driver.inTransaction then (finish id .committed).exec env s else (.ok (), s.closing scope .committed)
    else (.ok (), s) := by
  have hstatus : (Act.scopeStatus scope).exec env s = (.ok (s.scopes[scope]?.getD none), s) := rfl
  unfold conclude
  rw [exec_bind_ok hstatus]
  split
  · rw [exec_bind, exec_get]
    dsimp only
    split
    · rfl
    · rfl
  · rfl

def rowsOf (verb : InsertVerb) : Value → Option (Nat → Act (List Value))
  | .list items => some fun builder => insertAll verb builder items
  | .tuple items => some fun builder => insertAll verb builder items
  | .set items => some fun builder => insertAll verb builder items
  | .text s => some fun _ => if s = "" then pure [] else throw .tooDeep
  | .bytes content => some fun _ => if content.isEmpty then pure [] else throw .typeMismatch
  | _ => none

/-! ### What transactions keep -/

section Keeps

section Ends

variable [IsPreorder Session R]

/-- The end of a transaction is a call of the driver, with which the scope is closed if it succeeds. -/
theorem keeps_finish_of {status : TransactionStatus} (hcalled : ∀ s, R s (s.called status.call))
    (hended : ∀ (s : Session) (scope : Nat), s.scopes[scope]?.getD none = none → status.call.Succeeds s.driver →
      R s ((s.called status.call).closing scope status)) : Keeps R env (finish id status) := by
  intro s
  rcases Execute.requireOpen_cases env id s with ⟨fault, hstops⟩ | ⟨b, hb, hopen, hscope⟩
  · rw [exec_finish_stops status hstops]
    exact refl_of R s
  · rw [exec_finish status hb hopen]
    cases hcall : (status.call.on s.driver).1 with
    | error fault => exact hcalled s
    | ok x =>
        cases hrole : b.role with
        | transaction scope => exact hended s scope (hscope scope hrole) hcall
        | _ => exact hcalled s

/-- A scope that its script has left open ends by a commit, or without a call of the driver. -/
theorem keeps_conclude_of (hfinish : Keeps R env (finish id .committed))
    (hassumed : ∀ s : Session, s.scopes[scope]?.getD none = none → s.driver.inTransaction = false →
      R s (s.closing scope .committed)) : Keeps R env (conclude id scope) := by
  intro s
  rw [exec_conclude]
  split
  · rename_i hnone
    split
    · exact hfinish s
    · rename_i hout
      exact hassumed s (Option.isNone_iff_eq_none.mp hnone) (Bool.eq_false_iff.mpr hout)
  · exact refl_of R s

end Ends

section Calls

variable [env.Encloses R]

theorem keeps_called {operation : Driver → Except Fault α × Driver × List WireEntry} (c : DriverCall)
    (h : ∀ d, (operation d).2 = (c.on d).2) : Keeps R env (Act.driver operation) := by
  intro s
  rw [exec_driver, h]
  exact Surroundings.Encloses.called env c s

theorem keeps_begin : Keeps R env (Execute.reported Driver.begin) := by
  intro s
  rw [Execute.reported_snd]
  exact Surroundings.Encloses.called env .begin s

theorem keeps_newScope : Keeps R env Act.newScope := fun s => Surroundings.Encloses.opened env s

end Calls

variable [IsPreorder Session R] [env.Encloses R]

theorem keeps_rollBackQuietly : Keeps R env rollBackQuietly := by
  refine .tryCatch (keeps_called .rollback fun _ => rfl) fun fault => ?_
  split
  · exact .bind (.lift _) fun _ s => Surroundings.Encloses.noted env s _ trivial
  · exact .throw _

theorem keeps_abandon (scope : Nat) : Keeps R env (abandon scope) := by
  intro s
  rw [exec_abandon]
  split
  · exact keeps_rollBackQuietly s
  · exact refl_of R s

theorem keeps_finish (id : Nat) (status : TransactionStatus) : Keeps R env (finish id status) :=
  keeps_finish_of (Surroundings.Encloses.called env status.call) fun s scope =>
    Surroundings.Encloses.ended env s scope status

theorem keeps_conclude (id scope : Nat) : Keeps R env (conclude id scope) :=
  keeps_conclude_of (keeps_finish id .committed) fun s => Surroundings.Encloses.assumed env s scope

/-- What comes behind the beginning of a transaction keeps up what its script does. -/
theorem begun_at (hscript : R t ((script builder).exec env t).2) :
    R t ((begun scope builder script).exec env t).2 := by
  rw [exec_begun]
  rcases hr : (script builder).exec env t with ⟨outcome, u⟩
  rw [hr] at hscript
  cases outcome with
  | ok answer =>
      refine trans_of R hscript (Keeps.bind (keeps_conclude _ _) (fun _ => ?_) u)
      exact .bind (Execute.keeps_scopeStatus _) fun _ => .pure _
  | error fault => exact trans_of R hscript (Keeps.bind (keeps_abandon _) (fun _ => .throw _) u)

variable [env.Minds R]

/-- A transaction keeps up what its script does where it is called. -/
theorem run_at (hscript : ∀ builder t, Starts env id s builder t → R t ((script builder).exec env t).2) :
    R s ((run id script).exec env s).2 := by
  rw [run_eq]
  refine Keeps.bind_at keeps_newScope fun scope u hnew => ?_
  obtain ⟨rfl, rfl⟩ : s.scopes.size = scope ∧ s.opened = u := by
    injection hnew with hscope hu
    injection hscope with hscope
    exact ⟨hscope, hu⟩
  refine trans_of R (Surroundings.Encloses.opened env s) ?_
  have hcopying : Keeps R env (builderFor id s.scopes.size) := Keeps.minding.builderFor _ _
  refine Keeps.bind_at hcopying fun builder t hcopy => ?_
  refine trans_of R (hcopying.of_exec hcopy) ?_
  rw [exec_bind, exec_get]
  dsimp only
  split
  · rename_i hin
    exact begun_at (hscript _ _ (.shared hcopy hin))
  · rename_i hout
    refine Keeps.bind_at keeps_begin fun _ u hbegin => ?_
    refine trans_of R (keeps_begin.of_exec hbegin) ?_
    exact begun_at (hscript _ _ (.begun hcopy (Bool.eq_false_iff.mpr hout) hbegin))

theorem keeps_run (id : Nat) {script : Nat → Act α} (hscript : ∀ builder, Keeps R env (script builder)) :
    Keeps R env (run id script) := fun _ => run_at fun builder t _ => hscript builder t

theorem keeps_batch (id : Nat) {rows : Nat → Act (List Value)} (hrows : ∀ builder, Keeps R env (rows builder)) :
    Keeps R env (batch id rows) := by
  refine .bind .get fun _ => ?_
  split
  · exact .bind (hrows _) fun _ => .pure _
  · exact .bind (keeps_run _ hrows) fun _ => .pure _

end Keeps

section Insertions

variable [IsPreorder Session R] [env.Minds R]

/-- A row is inserted by statements alone. -/
theorem keeps_insert_row [env.Sends R] {verb : InsertVerb} {v : Value} (id : Nat) (h : rowsOf verb v = none) :
    Keeps R env (insert verb id v) := by
  unfold rowsOf at h
  unfold insert
  split
  · exact Execute.keeps_insertRow _ _ _
  · cases h
  · cases h
  · cases h
  · cases h
  · cases h
  · exact .throw _

end Insertions

mutual

/-- What batches keep is kept by insertions to any depth of sequences. -/
theorem keeps_insert_of_batch [IsPreorder Session R] [env.Minds R] [env.Sends R]
    (hbatch : ∀ (id : Nat) (rows : Nat → Act (List Value)), (∀ builder, Keeps R env (rows builder)) →
      Keeps R env (batch id rows)) (verb : InsertVerb) (id : Nat) (v : Value) : Keeps R env (insert verb id v) := by
  unfold insert
  split
  · exact Execute.keeps_insertRow _ _ _
  · exact hbatch _ _ fun _ => keeps_insertAll hbatch _ _ _
  · exact hbatch _ _ fun _ => keeps_insertAll hbatch _ _ _
  · exact hbatch _ _ fun _ => keeps_insertAll hbatch _ _ _
  · refine hbatch _ _ fun _ => ?_
    split
    · exact .pure _
    · exact .throw _
  · refine hbatch _ _ fun _ => ?_
    split
    · exact .pure _
    · exact .throw _
  · exact .throw _

theorem keeps_insertAll [IsPreorder Session R] [env.Minds R] [env.Sends R]
    (hbatch : ∀ (id : Nat) (rows : Nat → Act (List Value)), (∀ builder, Keeps R env (rows builder)) →
      Keeps R env (batch id rows)) (verb : InsertVerb) (id : Nat) (vs : List Value) :
    Keeps R env (insertAll verb id vs) := by
  unfold insertAll
  split
  · exact .pure _
  · exact .bind (keeps_insert_of_batch hbatch _ _ _) fun _ => .bind (keeps_insertAll hbatch _ _ _) fun _ => .pure _

end

theorem keeps_insert [IsPreorder Session R] [env.Minds R] [env.Encloses R] (verb : InsertVerb) (id : Nat)
    (v : Value) : Keeps R env (insert verb id v) :=
  keeps_insert_of_batch (fun id _ hrows => keeps_batch id hrows) verb id v

end Transaction

end SqlBuilder
