import SqlBuilder.Proofs.Session.Playing
import SqlBuilder.Proofs.Session.Refusing

/-!
Builders of a transaction that has ended, whatever is called on them and however they have come about. All calls are
barred but one: the insertion of a batch while the driver has no transaction open begins a transaction of its own,
with a scope that is open.
-/

namespace SqlBuilder

open Act Session

variable {α β : Type} {env : Surroundings} {s t : Session} {scope id : Nat} {status : TransactionStatus}

/-! ### The ends and the beginnings of transactions -/

namespace Transaction

/-- What ends with success has closed the scope. -/
theorem finish_closes {ending : TransactionStatus} {x : Unit} (hid : s.InScope scope id)
    (hopen : s.scopes[scope]? = some none) (h : (finish id ending).exec env s = (.ok x, t)) :
    t.Closed scope ending := by
  obtain ⟨_, u, hok, hdriven⟩ := exec_bind_eq_ok h
  obtain ⟨rfl, -⟩ := Execute.requireOpen_ok hok
  obtain ⟨_, v, hreported, hlooked⟩ := exec_bind_eq_ok hdriven
  obtain ⟨hscopes, hbuilders⟩ := Execute.reported_same hreported
  obtain ⟨b, w, hb, hclose⟩ := exec_bind_eq_ok hlooked
  obtain ⟨hb, rfl⟩ := exec_builder_eq_ok hb
  obtain ⟨b', hb', hrole⟩ := hid
  obtain rfl : b' = b := Option.some.inj (hb'.symm.trans (hbuilders ▸ hb))
  simp only [hrole] at hclose
  cases hclose
  unfold Closed
  rw [Array.getElem?_modify, if_pos rfl, hscopes, hopen]
  rfl

theorem quiet_addDraft (d : Draft) : Keeps Quiet env (Act.addDraft d) := fun _ => .of_eq rfl rfl rfl rfl

theorem quiet_addBuilder (b : Builder) : Keeps Quiet env (Act.addBuilder b) := fun s => .pushBuilder s b

theorem quiet_clone (depth id : Nat) : Keeps Quiet env (Declare.clone depth id) :=
  Keeps.modular.clone .throw .builder .draft quiet_addDraft quiet_addBuilder depth id

/-- The copy that a transaction starts with is made without the driver. -/
theorem quiet_builderFor (id scope : Nat) : Keeps Quiet env (builderFor id scope) := by
  refine .bind (.bind (quiet_addDraft _) fun _ => .bind .get fun _ => quiet_addBuilder _) fun fresh => ?_
  refine .bind .read fun _ => .bind (quiet_clone _ _) fun _ => .bind (.builder _) fun copy => .bind ?_ fun _ => .pure _
  refine fun s => .modifyBuilder s fresh ?_ ?_
  · exact fun _ => rfl
  · exact fun _ hnone => hnone

theorem builderFor_inScope {fresh : Nat} (h : (builderFor id scope).exec env s = (.ok fresh, t)) :
    t.InScope scope fresh := by
  obtain ⟨fresh', u, hnew, hcopied⟩ := exec_bind_eq_ok h
  obtain ⟨around, v, hread, hcopied⟩ := exec_bind_eq_ok hcopied
  cases hread
  obtain ⟨copy, v, hclone, hlooked⟩ := exec_bind_eq_ok hcopied
  have hv := ((quiet_clone _ _).of_exec hclone).extends.inScope (Declare.newBuilder_idle hnew).inScope
  obtain ⟨b, w, hb, hmodified⟩ := exec_bind_eq_ok hlooked
  obtain ⟨-, rfl⟩ := exec_builder_eq_ok hb
  cases hmodified
  refine Extends.inScope (Quiet.extends (Quiet.modifyBuilder w fresh ?_ ?_)) hv
  · exact fun _ => rfl
  · exact fun _ hnone => hnone

/-- A transaction that is not inside another one begins on a builder of an open scope, as soon as there is a copy of
what the given builder declares. -/
theorem run_begins (script : Nat → Act α) {fresh : Nat} (hin : s.driver.inTransaction = false)
    (hcopy : (builderFor id s.scopes.size).exec env { s with scopes := s.scopes.push none } = (.ok fresh, t)) :
    (run id script).exec env s = (do
      Execute.reported Driver.begin
      begun s.scopes.size fresh script : Act _).exec env t ∧
    t.driver = s.driver ∧ t.journal = s.journal ∧ t.InScope s.scopes.size fresh ∧
    t.scopes[s.scopes.size]? = some none := by
  have hquiet := (quiet_builderFor id _).of_exec hcopy
  refine ⟨?_, hquiet.driver, hquiet.journal, builderFor_inScope hcopy, ?_⟩
  · have hnew : Act.newScope.exec env s = (.ok s.scopes.size, { s with scopes := s.scopes.push none }) := rfl
    unfold run
    have hout : ¬ t.driver.inTransaction = true := by
      rw [hquiet.driver]
      exact Bool.eq_false_iff.mp hin
    rw [exec_bind_ok hnew, exec_bind_ok hcopy, exec_bind, exec_get]
    dsimp only
    rw [if_neg hout]
    rfl
  · rw [hquiet.scopes]
    exact Array.getElem?_push_size

end Transaction

/-! ### Every call -/

namespace BuilderCall

def isBatch : BuilderCall → Bool
  | .insert verb data => (Transaction.rowsOf verb data).isSome
  | _ => false

/-- The call makes another builder of the same transaction. -/
def derives : BuilderCall → Bool
  | .table _ | .newQuery | .clone => true
  | _ => false

/-- How the call ends a transaction, if it does. -/
def ending? : BuilderCall → Option TransactionStatus
  | .commit => some .committed
  | .rollback => some .rolledBack
  | _ => none

section Barred

variable [env.Keeps Extends]

theorem barred_declaring {change : Act Unit} (h : Barred env scope status id change) :
    Barred env scope status id (declaring id change) := .bind h fun _ => .blind fun _ => .builderValue _

theorem barred_finish (ending : TransactionStatus) : Barred env scope status id (silently do
    let _ ← scopeOf id
    Transaction.finish id ending) :=
  .bind (.bind (.blind fun _ => blind_scopeOf _) fun _ => (Transaction.refused_finish _).barred) fun _ =>
    .blind fun _ => .pure _

theorem barred_perform (hs : s.Shut scope status id) {c : BuilderCall} (hc : c.purpose ≠ .ask)
    (hbatch : c.isBatch → s.driver.inTransaction) : BarredAt env scope status (c.perform id) s := by
  have hpure : ∀ {α β : Type} {op : Act α} (f : α → β), Barred env scope status id op →
      Barred env scope status id (do pure (f (← op))) := fun _ h => .bind h fun _ => .blind fun _ => .pure _
  cases c with
  | query sql values => exact barred_declaring (Execute.refused_query _ _).barred s hs
  | statement sql values => exact hpure _ (Execute.refused_statement _ _).barred s hs
  | fetchAll => exact hpure _ Execute.barred_fetchAll s hs
  | first => exact Execute.barred_first s hs
  | find v field =>
      exact Barred.bind (.blind fun _ => Declare.blind_condition _ _ _ _ _) (fun _ => Execute.barred_first) s hs
  | findAll field v =>
      exact Barred.bind (.blind fun _ => Declare.blind_condition _ _ _ _ _)
        (fun _ => hpure _ Execute.barred_fetchAll) s hs
  | count field => exact Barred.bind (Execute.barred_aggregate _ _) (fun _ => .blind fun _ => .lift _) s hs
  | aggregate function field => exact Execute.barred_aggregate _ _ s hs
  | insert verb data => exact Transaction.barred_insert verb hs hbatch
  | update data => exact hpure _ (Execute.refused_update _).barred s hs
  | updateOrInsert data => exact (Transaction.refused_updateOrInsert _).barred s hs
  | delete columns => exact hpure _ (Execute.refused_delete _).barred s hs
  | commit => exact barred_finish _ s hs
  | rollback => exact barred_finish _ s hs
  | isClosed => exact absurd rfl hc
  | status => exact absurd rfl hc
  | _ => exact Barred.blind (fun _ => blind_perform _ rfl) s hs

/-- But for batches, nothing is executed without a result that is pending. -/
theorem unanswered_perform {c : BuilderCall} (hc : c.purpose = .execute) (hbatch : c.isBatch = false) :
    Unanswered env scope status id (c.perform id) := by
  cases c with
  | query sql values => exact (Unanswered.of_refused (Execute.refused_query _ _)).bind
  | statement sql values => exact (Unanswered.of_refused (Execute.refused_statement _ _)).bind
  | fetchAll => exact Execute.unanswered_fetchAll.bind
  | first => exact Execute.unanswered_first
  | find v field =>
      exact .after (.blind (Declare.blind_condition _ _ _ _ _)) fun _ => Execute.unanswered_first
  | findAll field v =>
      exact .after (.blind (Declare.blind_condition _ _ _ _ _)) fun _ => Execute.unanswered_fetchAll.bind
  | count field => exact (Execute.unanswered_aggregate _ _).bind
  | aggregate function field => exact Execute.unanswered_aggregate _ _
  | insert verb data =>
      have hnone : Transaction.rowsOf verb data = none := Option.not_isSome_iff_eq_none.mp (Bool.eq_false_iff.mp hbatch)
      exact .of_refused (Transaction.refused_insert hnone)
  | update data => exact (Unanswered.of_refused (Execute.refused_update _)).bind
  | updateOrInsert data => exact .of_refused (Transaction.refused_updateOrInsert _)
  | delete columns => exact (Unanswered.of_refused (Execute.refused_delete _)).bind
  | _ => cases hc

end Barred

/-- To ask how the scope has ended changes nothing. -/
theorem perform_ask (id : Nat) {c : BuilderCall} (hc : c.purpose = .ask) : Keeps Eq env (c.perform id) := by
  have hstatus : ∀ scope, Keeps Eq env (Act.scopeStatus scope) := fun _ => .bind .get fun _ => .pure _
  cases c with
  | isClosed => exact .bind (keeps_scopeOf _) fun _ => .bind (hstatus _) fun _ => .pure _
  | status => exact .bind (keeps_scopeOf _) fun _ => .bind (hstatus _) fun _ => .pure _
  | _ => cases hc

/-- A commit or a rollback that succeeds closes the scope. -/
theorem perform_finish {c : BuilderCall} {ending : TransactionStatus} (hc : c.ending? = some ending) {v : Value}
    (hid : s.InScope scope id) (hopen : s.scopes[scope]? = some none)
    (h : (c.perform id).exec env s = (.ok v, t)) : t.Closed scope ending := by
  have hfinish : ∀ {ending : TransactionStatus}, (silently do
      let _ ← scopeOf id
      Transaction.finish id ending).exec env s = (.ok v, t) → t.Closed scope ending := by
    intro ending h
    obtain ⟨_, u, hdone, hend⟩ := exec_bind_eq_ok h
    cases hend
    obtain ⟨_, v, hscope, hfinish⟩ := exec_bind_eq_ok hdone
    obtain rfl := (keeps_scopeOf (R := Eq) _).of_exec hscope
    exact Transaction.finish_closes hid hopen hfinish
  cases c with
  | commit =>
      cases hc
      exact hfinish h
  | rollback =>
      cases hc
      exact hfinish h
  | _ => cases hc

/-- A builder that is derived works in the same scope. -/
theorem perform_derives [env.Keeps Extends] (hid : s.InScope scope id) {c : BuilderCall} (hc : c.derives)
    {kind : BuilderKind} {fresh : Nat} (h : (c.perform id).exec env s = (.ok (.builder kind fresh), t)) :
    t.InScope scope fresh := by
  have hvalue : ∀ op : Act Nat, (∀ {n u}, op.exec env s = (.ok n, u) → u.InScope scope n) →
      (op >>= Act.builderValue).exec env s = (.ok (.builder kind fresh), t) → t.InScope scope fresh := by
    intro op hop h
    obtain ⟨n, u, hn, hbuilder⟩ := exec_bind_eq_ok h
    obtain ⟨b, v, hb, hend⟩ := exec_bind_eq_ok hbuilder
    obtain ⟨-, rfl⟩ := exec_builder_eq_ok hb
    cases hend
    exact hop hn
  cases c with
  | table tables => exact hvalue _ (fun htable => Declare.table_inScope hid htable) h
  | newQuery => exact hvalue _ (fun hnew => (Declare.newQuery_idle hid hnew).inScope) h
  | clone =>
      refine hvalue (do Declare.clone (← read).depth id) (fun hclone => ?_) h
      obtain ⟨around, u, hread, hclone⟩ := exec_bind_eq_ok hclone
      cases hread
      exact (Declare.clone_idle _ hid hclone).inScope
  | _ => cases hc

end BuilderCall

/-- What a call comes to on a builder whose scope has ended. -/
structure CallOnShut (env : Surroundings) (scope : Nat) (status : TransactionStatus) (id : Nat) (c : BuilderCall)
    (s : Session) : Prop where
  /-- Apart from scripts the driver is left alone. The call fails because the scope is closed, or it ends as it would
  with the scope open. -/
  barred : (c.isBatch → s.driver.inTransaction) → c.purpose ≠ .ask → BarredAt env scope status (c.perform id) s
  asked : c.purpose = .ask → ((c.perform id).exec env s).2 = s
  /-- Nothing is executed with success. -/
  fails : c.purpose = .execute → c.isBatch = false → s.Idle scope id → ∀ v, ((c.perform id).exec env s).1 ≠ .ok v
  /-- A batch while the driver has no transaction open begins a transaction with an open scope. -/
  begins : ∀ verb v rows fresh t, c = .insert verb v → Transaction.rowsOf verb v = some rows →
    s.driver.inTransaction = false →
    (Transaction.builderFor id s.scopes.size).exec env { s with scopes := s.scopes.push none } = (.ok fresh, t) →
    (c.perform id).exec env s = (do
      Execute.reported Driver.begin
      pure (.list (← Transaction.begun s.scopes.size fresh rows).2) : Act Value).exec env t ∧
    t.driver = s.driver ∧ t.journal = s.journal ∧ t.InScope s.scopes.size fresh ∧
    t.scopes[s.scopes.size]? = some none

theorem callOnShut [env.Keeps Extends] (hs : s.Shut scope status id) (c : BuilderCall) :
    CallOnShut env scope status id c s where
  barred hbatch hc := BuilderCall.barred_perform hs hc hbatch
  asked hc := ((BuilderCall.perform_ask id hc) s).symm
  fails hc hbatch hid := BuilderCall.unanswered_perform hc hbatch s hs.closed hid
  begins verb v rows fresh t hc hrows hin hcopy := by
    subst hc
    obtain ⟨hrun, hdriver, hjournal, hfresh, hopen⟩ := Transaction.run_begins rows hin hcopy
    refine ⟨?_, hdriver, hjournal, hfresh, hopen⟩
    have hout : ¬ s.driver.inTransaction = true := Bool.eq_false_iff.mp hin
    change (Transaction.insert verb id v).exec env s = _
    rw [Transaction.insert_batch hrows, Transaction.batch, exec_bind, exec_get]
    dsimp only
    rw [if_neg hout, exec_bind, hrun, ← exec_bind, bind_assoc]

/-! ### Scopes that have ended -/

/-- The builder that a transaction starts with works in its scope, and so do all that are derived from it. A commit
or a rollback closes the scope. Whatever script runs, its builders stay in the scope, and once the scope is closed it
stays so. Then all that is called on them is barred, but for a batch while the driver has no transaction open. -/
theorem closed_scope_calls (depth scope : Nat) :
    (∀ (s t : Session) (id fresh : Nat),
      (Transaction.builderFor id scope).exec (Play.surroundings depth) s = (.ok fresh, t) → t.InScope scope fresh) ∧
    (∀ (s t : Session) (id : Nat) (c : BuilderCall) (kind : BuilderKind) (fresh : Nat),
      s.InScope scope id → c.derives →
      (c.perform id).exec (Play.surroundings depth) s = (.ok (.builder kind fresh), t) → t.InScope scope fresh) ∧
    (∀ (s t : Session) (id : Nat) (c : BuilderCall) (ending : TransactionStatus) (v : Value),
      s.InScope scope id → s.scopes[scope]? = some none → c.ending? = some ending →
      (c.perform id).exec (Play.surroundings depth) s = (.ok v, t) → t.Closed scope ending) ∧
    ∀ (s t : Session) (isOutermost : Bool) (script : List Step),
      t = ((Play.record isOutermost script).exec (Play.surroundings depth) s).2 →
      (∀ id, s.InScope scope id → t.InScope scope id) ∧
      ∀ status, s.Closed scope status → t.Closed scope status ∧
        ∀ id, t.InScope scope id → ∀ c, CallOnShut (Play.surroundings depth) scope status id c t := by
  refine ⟨?_, ?_, ?_, ?_⟩
  · intro s t id fresh h
    exact Transaction.builderFor_inScope h
  · intro s t id c kind fresh hid hc h
    exact BuilderCall.perform_derives hid hc h
  · intro s t id c ending v hid hopen hc h
    exact BuilderCall.perform_finish hc hid hopen h
  · rintro s t isOutermost script rfl
    have hkeeps : Keeps Extends (Play.surroundings depth) _ := Play.extends_record isOutermost script
    have ht := hkeeps s
    refine ⟨fun id hid => ht.inScope hid, fun status hs => ⟨ht.closed _ _ hs, fun id hid c => ?_⟩⟩
    exact callOnShut ⟨ht.closed _ _ hs, hid⟩ c

/-- A session in a transaction whose builder declares a table. -/
def Session.people : Session where
  lead := some "cb_"
  overwriting := false
  driver := .scripted ⟨.mysql, [], none, none, none, 0, .null, true⟩
  builders := #[{ role := .transaction 0, draft := 0, lead := some "cb_", overwriting := .bool false }]
  drafts := #[{ tables := .declared [.text "cb_people"] }]
  scopes := #[none]

def Session.peopleShut : Session := ((BuilderCall.commit.perform 0).exec (Play.surroundings 2) .people).2

theorem closed_scope_calls_delete :
    Session.peopleShut.Closed 0 .committed ∧
      CallOnShut (Play.surroundings 2) 0 .committed 0 (.delete .null) .peopleShut ∧
      (((BuilderCall.delete .null).perform 0).exec (Play.surroundings 2) .peopleShut).1 =
        .error (.sql (.scopeClosed .committed)) := by
  obtain ⟨-, -, hfinish, hscripts⟩ := closed_scope_calls 2 0
  have hshut : Session.peopleShut.Closed 0 .committed :=
    hfinish .people .peopleShut 0 .commit .committed .null ⟨_, rfl, rfl⟩ rfl rfl rfl
  obtain ⟨-, hclosed⟩ := hscripts .peopleShut .peopleShut true [] rfl
  obtain ⟨-, hcall⟩ := hclosed .committed hshut
  exact ⟨hshut, hcall 0 ⟨_, rfl, rfl⟩ (.delete .null), rfl⟩

namespace Entry

def isBegin : Entry → Bool
  | .wire .begin => true
  | _ => false

def isExecute : Entry → Bool
  | .wire (.execute _ _) => true
  | _ => false

end Entry

/-- A batch on the closed builder succeeds, in a transaction that the driver has begun for it. -/
theorem not_closed_scope_calls_batch :
    ∃ c : BuilderCall, c.purpose = .execute ∧ Session.peopleShut.Closed 0 .committed ∧
      Session.peopleShut.InScope 0 0 ∧ Session.peopleShut.scripts = #[] ∧
      (Session.peopleShut.journal.any fun entry => entry.isBegin || entry.isExecute) = false ∧
      (((c.perform 0).exec (Play.surroundings 2) .peopleShut).1.isOk ∧
      (((c.perform 0).exec (Play.surroundings 2) .peopleShut).2.journal.any Entry.isBegin) ∧
      (((c.perform 0).exec (Play.surroundings 2) .peopleShut).2.journal.any Entry.isExecute)) := by
  refine ⟨.insert .insert (.list [.map [(.text "name", .text "Ada")]]), rfl, rfl, ⟨_, rfl, rfl⟩, rfl, rfl, ?_⟩
  decide +kernel

end SqlBuilder
