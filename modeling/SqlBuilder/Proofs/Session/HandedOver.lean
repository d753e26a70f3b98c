import SqlBuilder.Proofs.Driver.Report
import SqlBuilder.Proofs.Session.Execution
import SqlBuilder.Proofs.Session.Places

/-!
The statement that is handed to the driver. For a selection it is what the builder stands for behind the hooks, which
may have declared more; for a change of rows it is what the builder stood for in front of them. When the driver fails,
the fault comes with the statement that was noted last. A selection is noted again behind the hooks. Any other
statement is noted in front of them only, so a hook that executes something puts its own statement there.
-/

namespace SqlBuilder

open Act Session

namespace Execution

open Execute

variable {env : Surroundings} {id : Nat} {x : Execution} {i : Issued} {s t : Session}

/-- The state in front of the hooks. -/
def noted (env : Surroundings) (id : Nat) (x : Execution) (s : Session) : Session := ((x.make id).exec env s).2

/-- The state behind the hooks that run in front of the statement. -/
def hooked (env : Surroundings) (id : Nat) (x : Execution) (s : Session) : Session :=
  (Act.exec (do fire id x.before (some (← x.make id)) .null) env s).2

/-- The state in which the statement is compiled. For a selection it is the one behind the hooks. -/
def compiledIn (env : Surroundings) (id : Nat) (x : Execution) (s : Session) : Session :=
  match x with
  | select => hooked env id .select s
  | _ => s

/-- The statement is made, the hooks run, and a selection is made again. -/
theorem ready_eq_ok (h : (x.ready id).exec env s = (.ok i, t)) : ∃ early,
    (x.make id).exec env s = (.ok early, x.noted env id s) ∧
      (x.remake id early).exec env (x.hooked env id s) = (.ok i, t) := by
  obtain ⟨early, u, hmake, h⟩ := exec_bind_eq_ok h
  obtain ⟨answers, v, hfire, h⟩ := exec_bind_eq_ok h
  have hnoted : x.noted env id s = u := congrArg Prod.snd hmake
  have hhooked : x.hooked env id s = v := by
    unfold hooked
    rw [exec_bind_ok hmake, hfire]
  exact ⟨early, hnoted ▸ hmake, hhooked ▸ h⟩

theorem compile_of_ready {request : StatementRequest} (hx : x.request? = some request)
    (h : (x.ready id).exec env s = (.ok i, t)) :
    ∃ q u, (compile id request).exec env (x.compiledIn env id s) = (.ok q, u) ∧
      i = q.issued u.driver.hasEscapes := by
  obtain ⟨early, hmake, hremake⟩ := ready_eq_ok h
  cases x with
  | query sql values => cases hx
  | select =>
      cases hx
      exact (exec_prepare_eq_ok hremake).2
  | _ =>
      cases hx
      cases hremake
      exact (exec_prepare_eq_ok hmake).2

/-- The statement is noted behind the hooks if it is a selection, and in front of them if it is another one. -/
theorem lastStatement_of_ready (h : (x.ready id).exec env s = (.ok i, t)) :
    (x = .select ∨ (x.hooked env id s).lastStatement = (x.noted env id s).lastStatement →
      t.lastStatement = some i) ∧
    (x ≠ .select → t.lastStatement = (x.hooked env id s).lastStatement) := by
  obtain ⟨early, hmake, hremake⟩ := ready_eq_ok h
  cases x with
  | select => exact ⟨fun _ => (exec_prepare_eq_ok hremake).1, fun hx => absurd rfl hx⟩
  | _ =>
      cases hremake
      refine ⟨fun hkept => ?_, fun _ => rfl⟩
      obtain hx | hkept := hkept
      · cases hx
      · exact hkept.trans (lastStatement_of_make hmake)

/-! ### A session with a hook -/

/-- A builder for a table with a hook, and another builder that the hook can use. -/
def watched (event : EventKind) (steps : List Step) (replies : List ScriptedReply) : Session where
  lead := none
  overwriting := false
  driver := .scripted ⟨.mysql, replies, none, none, none, 0, .null, false⟩
  hooks := [(.text "people", [(event, .hook "watch" 0)])]
  builders := #[⟨.query, 0, none, .bool false, .null, none⟩, ⟨.query, 1, none, .bool false, .null, none⟩]
  drafts := #[.over (.text "people"), .over (.text "journal")]
  scripts := #[⟨steps, .value .null⟩]
  stored := [("journal", .builder .query 1)]

/-- The hook declares one condition more. -/
def restricting : List Step :=
  [.mk "where" [.value (.text "tenant"), .value (.text "="), .value (.int 1)] [] {} [] default]

/-- The hook executes a statement of its own. -/
def clearingJournal : List Step := [.mk "delete" [] [] { target := "journal" } [] default]

def rejected : DriverFault := ⟨.text "42S22", .int 1054, .text "Unknown column"⟩

theorem isTyped_rejected : rejected.IsTyped := ⟨.inr ⟨_, rfl⟩, ⟨_, rfl⟩, ⟨_, rfl⟩⟩

def rejection : ScriptedReply := { failure := some rejected }

def nameAda : Value := .map [(.text "name", .text "Ada")]

/-- What an execution comes to: the texts of the statement that it hands over and of the one that is noted last, and
the parts of the report of the driver if it fails. -/
structure Landing where
  text : Option String
  noted : Option String
  report : Option (String × Int × String)
  deriving DecidableEq

def landing (i : Issued) (t : Session) : Landing where
  text := i.sql.text?
  noted := t.lastStatement.bind fun noted => noted.sql.text?
  report := match ((DriverCall.execute i.sql i.bindings).on t.driver).1 with
    | .error (.driver ⟨.text state, .int code, .text message⟩) => some (state, code, message)
    | _ => none

/-- The landing of an execution, unless it does not come to hand its statement over. -/
def landing? (env : Surroundings) (id : Nat) : Except Fault Issued × Session → Option Landing
  | (.error _, _) => none
  | (.ok i, t) =>
    if ((requireOpen id).exec env t).1.isOk && (t.builders[id]?.any fun b => b.pending.isNone) then some (landing i t)
    else none

theorem reaches_of_landing (x : Execution) (env : Surroundings) (id : Nat) (s : Session) {l : Landing}
    (h : landing? env id ((x.ready id).exec env s) = some l) :
    ∃ i t, x.Reaches env id s i t ∧ landing i t = l := by
  rcases hr : (x.ready id).exec env s with ⟨outcome, t⟩
  rw [hr] at h
  cases outcome with
  | error fault => cases h
  | ok i =>
      obtain ⟨hhands, hlanding⟩ := Option.ite_none_right_eq_some.1 h
      obtain ⟨hopen, hidle⟩ := Bool.and_eq_true_iff.1 hhands
      refine ⟨i, t, ⟨hr, ?_, fun _ => ?_⟩, Option.some.inj hlanding⟩
      · obtain ⟨fault, hstops⟩ | ⟨b, -, hgoes, -⟩ := requireOpen_cases env id t
        · rw [hstops] at hopen
          cases hopen
        · exact hgoes
      · obtain ⟨hb, hpending⟩ := (Option.any_eq_true_iff_get _ _).1 hidle
        exact ⟨_, (Option.some_get hb).symm, Option.isNone_iff_eq_none.1 hpending⟩

theorem reports_of_landing {i : Issued} {t : Session} {state message : String} {code : Int}
    (h : (landing i t).report = some (state, code, message)) :
    ((DriverCall.execute i.sql i.bindings).on t.driver).1 =
      .error (.driver ⟨.text state, .int code, .text message⟩) := by
  dsimp only [landing] at h
  split at h
  · rename_i hr
    cases h
    exact hr
  · cases h

/-- What goes to the driver between the hooks is a compiled statement: for a selection it is compiled in the state
behind the hooks in front of it, whatever they have declared, and for a change of rows in the state in front of
them. -/
theorem statement_handed_over (depth : Nat) {request : StatementRequest} (hx : x.request? = some request)
    (h : x.Reaches (Play.surroundings depth) id s i t) :
    (∃ q u, (compile id request).exec (Play.surroundings depth) (x.compiledIn (Play.surroundings depth) id s) =
      (.ok q, u) ∧ i.sql = .text q.sql ∧ i.bindings = q.bindings) ∧
    ∃ ms ms', Course s ms t ∧
      Course (t.called (.execute i.sql i.bindings)) ms' ((x.call.perform id).exec (Play.surroundings depth) s).2 := by
  refine ⟨?_, h.courses⟩
  obtain ⟨q, u, hq, rfl⟩ := compile_of_ready hx h.ready
  exact ⟨q, u, hq, rfl, rfl⟩

theorem statement_handed_over_select : ∃ (i : Issued) (t : Session) (ms ms' : List Move),
    i.sql.text? = some "SELECT * FROM `people` WHERE `tenant` = ?" ∧
    (∃ q u, (compile 0 .select).exec (Play.surroundings 2)
        (hooked (Play.surroundings 2) 0 .select (watched .beforeSelect restricting [])) = (.ok q, u) ∧
      i.sql = .text q.sql ∧ i.bindings = q.bindings) ∧
    Course (watched .beforeSelect restricting []) ms t ∧
    Course (t.called (.execute i.sql i.bindings)) ms'
      ((BuilderCall.fetchAll.perform 0).exec (Play.surroundings 2) (watched .beforeSelect restricting [])).2 := by
  obtain ⟨i, t, hreaches, hlanding⟩ := reaches_of_landing .select (Play.surroundings 2) 0
    (watched .beforeSelect restricting []) (l := ⟨some "SELECT * FROM `people` WHERE `tenant` = ?",
      some "SELECT * FROM `people` WHERE `tenant` = ?", none⟩) (by decide +kernel)
  obtain ⟨hcompiled, ms, ms', hfront, hback⟩ := statement_handed_over 2 rfl hreaches
  exact ⟨i, t, ms, ms', congrArg Landing.text hlanding, hcompiled, hfront, hback⟩

/-- What a hook in front of a deletion declares comes too late for it. -/
theorem not_statement_handed_over_delete : ∃ (i : Issued) (t : Session) (q : Query) (u : Session),
    (delete .null).Reaches (Play.surroundings 2) 0 (watched .beforeDelete restricting []) i t ∧
      (compile 0 (.delete .null)).exec (Play.surroundings 2)
        (hooked (Play.surroundings 2) 0 (.delete .null) (watched .beforeDelete restricting [])) = (.ok q, u) ∧
      i.sql.text? = some "DELETE FROM `people`" ∧ q.sql = "DELETE FROM `people` WHERE `tenant` = ?" := by
  obtain ⟨i, t, hreaches, hlanding⟩ := reaches_of_landing (.delete .null) (Play.surroundings 2) 0
    (watched .beforeDelete restricting []) (l := ⟨some "DELETE FROM `people`", some "DELETE FROM `people`", none⟩)
    (by decide +kernel)
  obtain ⟨q, hq, hsql⟩ := exec_eq_ok (compile 0 (.delete .null)) (Play.surroundings 2)
    (hooked (Play.surroundings 2) 0 (.delete .null) (watched .beforeDelete restricting [])) (fun q => q.sql)
    (y := "DELETE FROM `people` WHERE `tenant` = ?") (by decide +kernel)
  exact ⟨i, t, q, _, hreaches, hq, congrArg Landing.text hlanding, hsql⟩

/-- A row that fails ends the batch. -/
theorem exec_insertAll_fails {verb : InsertVerb} {front : List Value} {v : Value} {answers : List Value}
    {fault : Fault} {r : Session} (hfront : (Transaction.insertAll verb id front).exec env r = (.ok answers, s))
    (hrow : (Transaction.insert verb id v).exec env s = (.error fault, t)) (back : List Value) :
    (Transaction.insertAll verb id (front ++ v :: back)).exec env r = (.error fault, t) := by
  induction front generalizing r answers with
  | nil =>
      cases hfront
      rw [List.nil_append, Transaction.insertAll]
      exact exec_bind_error hrow
  | cons first rest ih =>
      rw [Transaction.insertAll] at hfront
      obtain ⟨answer, u, hfirst, hfront⟩ := exec_bind_eq_ok hfront
      obtain ⟨others, w, hrest, hend⟩ := exec_bind_eq_ok hfront
      cases hend
      rw [List.cons_append, Transaction.insertAll, exec_bind_ok hfirst]
      exact exec_bind_error (ih hrest)

/-- A report of the driver on the statement ends the call, and a batch whose row it is. The fault that is raised comes
with the statement that was noted last. That is the statement handed over if it is a selection, or if the hooks in
front of it have noted no other one; otherwise it is what the hooks have noted. -/
theorem failure_handed_over (depth : Nat) {report : DriverFault} {u : Session}
    (h : x.Reaches (Play.surroundings depth) id s i t)
    (hfails : ((DriverCall.execute i.sql i.bindings).on t.driver).1 = .error (.driver report))
    (hu : u = t.called (.execute i.sql i.bindings)) :
    (x.call.perform id).exec (Play.surroundings depth) s =
      (.error (report.toFault (some u.driver.engine) t.lastStatement), u) ∧
    (∀ verb entries front back answers r, x = .insert verb entries →
      (Transaction.insertAll verb id front).exec (Play.surroundings depth) r = (.ok answers, s) →
      (Transaction.insertAll verb id (front ++ .map entries :: back)).exec (Play.surroundings depth) r =
        (.error (report.toFault (some u.driver.engine) t.lastStatement), u)) ∧
    (report.IsTyped → ∃ fault, report.toFault (some u.driver.engine) t.lastStatement = .sql fault ∧
      fault.cause? = some report ∧ fault.statement? = t.lastStatement) ∧
    (x = .select ∨ (x.hooked (Play.surroundings depth) id s).lastStatement =
        (x.noted (Play.surroundings depth) id s).lastStatement → t.lastStatement = some i) ∧
    (x ≠ .select → t.lastStatement = (x.hooked (Play.surroundings depth) id s).lastStatement) := by
  subst hu
  have hfailed := h.exec_fails hfails
  refine ⟨hfailed, ?_, fun htyped => ?_, lastStatement_of_ready h.ready⟩
  · rintro verb entries front back answers r rfl hfront
    exact exec_insertAll_fails hfront hfailed back
  · obtain ⟨category, code, hfault⟩ := DriverFault.toFault_of_isTyped htyped _ t.lastStatement
    exact ⟨.reported category code report t.lastStatement, hfault, rfl, rfl⟩

/-- A selection whose hook executes a statement of its own fails with its own statement. -/
theorem failure_handed_over_select : ∃ (i : Issued) (fault : SqlFault),
    i.sql.text? = some "SELECT * FROM `people`" ∧
    ((BuilderCall.fetchAll.perform 0).exec (Play.surroundings 2)
      (watched .beforeSelect clearingJournal [{}, rejection])).1 = .error (.sql fault) ∧
    fault.cause? = some rejected ∧ fault.statement? = some i := by
  obtain ⟨i, t, hreaches, hlanding⟩ := reaches_of_landing .select (Play.surroundings 2) 0
    (watched .beforeSelect clearingJournal [{}, rejection]) (l := ⟨some "SELECT * FROM `people`",
      some "SELECT * FROM `people`", some ("42S22", 1054, "Unknown column")⟩) (by decide +kernel)
  have hfails := reports_of_landing (congrArg Landing.report hlanding)
  obtain ⟨hfailed, -, htyped, hnoted, -⟩ := failure_handed_over 2 hreaches hfails rfl
  obtain ⟨fault, hfault, hcause, hstatement⟩ := htyped isTyped_rejected
  refine ⟨i, fault, congrArg Landing.text hlanding, ?_, hcause, hstatement.trans (hnoted (.inl rfl))⟩
  rw [← hfault]
  exact congrArg Prod.fst hfailed

/-- An update whose hook executes a statement of its own fails with that statement. -/
theorem not_failure_handed_over_update : ∃ (i : Issued) (t : Session) (fault : SqlFault) (other : Issued),
    (update nameAda).Reaches (Play.surroundings 2) 0 (watched .beforeUpdate clearingJournal [{}, rejection]) i t ∧
    ((DriverCall.execute i.sql i.bindings).on t.driver).1 = .error (.driver rejected) ∧
    (((BuilderCall.update nameAda).perform 0).exec (Play.surroundings 2)
      (watched .beforeUpdate clearingJournal [{}, rejection])).1 = .error (.sql fault) ∧
    i.sql.text? = some "UPDATE `people` SET `name` = ?" ∧
    fault.statement? = some other ∧ other.sql.text? = some "DELETE FROM `journal`" := by
  obtain ⟨i, t, hreaches, hlanding⟩ := reaches_of_landing (.update nameAda) (Play.surroundings 2) 0
    (watched .beforeUpdate clearingJournal [{}, rejection]) (l := ⟨some "UPDATE `people` SET `name` = ?",
      some "DELETE FROM `journal`", some ("42S22", 1054, "Unknown column")⟩) (by decide +kernel)
  have hfails := reports_of_landing (congrArg Landing.report hlanding)
  obtain ⟨other, hother, htext⟩ := Option.bind_eq_some_iff.1 (congrArg Landing.noted hlanding)
  obtain ⟨category, code, hfault⟩ := DriverFault.toFault_of_isTyped isTyped_rejected
    (some (t.called (.execute i.sql i.bindings)).driver.engine) t.lastStatement
  refine ⟨i, t, .reported category code rejected t.lastStatement, other, hreaches, hfails, ?_,
    congrArg Landing.text hlanding, hother, htext⟩
  rw [← hfault]
  exact congrArg Prod.fst (hreaches.exec_fails hfails)

end Execution

end SqlBuilder
