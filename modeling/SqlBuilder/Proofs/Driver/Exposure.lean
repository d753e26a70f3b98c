import Mathlib.Data.List.Basic
import SqlBuilder.Proofs.Driver.History

/-!
The failures of a database module that get past the driver. Those of a statement, of its commit and of the ends of a
transaction are reported in the terms of drivers, or forgiven where an identifier is read back. What is not guarded is
the clean-up behind them: the rollback outside a transaction and the return to a savepoint. Nor is the demand for a
cursor, or its close. In exactly these cases an error of the module reaches the caller, in place of the report of the
statement that has failed before.
-/

namespace SqlBuilder

variable {α : Type}

namespace ModuleFailure

/-- What the failure comes with can be written. -/
def IsWritten (f : ModuleFailure) : Prop := ∀ v ∈ f.details, ∃ s, v.written = .ok s

variable {f : ModuleFailure}

theorem text_of_isWritten (h : f.IsWritten) : ∃ s, f.text = .ok s := by
  unfold text
  split
  · exact ⟨"", rfl⟩
  · rename_i detail hdetails
    exact h detail (hdetails ▸ List.mem_singleton_self detail)
  · exact ⟨_, rfl⟩

theorem toDriverFault_of_isWritten (h : f.IsWritten) : ∃ report, f.toDriverFault = .ok report := by
  obtain ⟨s, hs⟩ := text_of_isWritten h
  unfold toDriverFault
  rw [hs]
  -- only the detail behind the first one is written apart from the text of the failure
  have hmessage : ∀ {detail message : Value} {rest : List Value}, f.details = detail :: message :: rest →
      ∃ text, message.written = .ok text := fun hdetails =>
    h _ (hdetails ▸ List.mem_cons_of_mem _ List.mem_cons_self)
  dsimp only [bind, Except.bind]
  split
  · exact ⟨_, rfl⟩
  · rename_i detail rest hdetails
    split
    · split
      · exact ⟨_, rfl⟩
      · obtain ⟨text, htext⟩ := hmessage hdetails
        rw [htext]
        exact ⟨_, rfl⟩
    · split
      · obtain ⟨text, htext⟩ := hmessage hdetails
        split
        · rw [htext]
          exact ⟨_, rfl⟩
        · exact ⟨_, rfl⟩
      · exact ⟨_, rfl⟩

end ModuleFailure

namespace CursorDriver

open Talk

/-- What the calls come with is of the kind that the interface of modules asks for: statements are texts, row counts
numbers, failures can be written, and identifiers that are read back are numbers or texts. -/
structure Proper (o : CallConduct) (c : DriverCall) : Prop where
  statement : ∀ sql values, c = .execute sql values → ∃ s, sql = .text s
  counted : ∀ reply ∈ o.replies, reply.rowCount = .null ∨ ∃ n, reply.rowCount = .int n
  written : ∀ f ∈ o.failures, f.IsWritten
  identified : c = .askInsertId → ∀ reply ∈ o.replies, ∃ id, identifierOf (firstCell reply) = .ok id

/-- Reading the identifier fails, and so does what is done about it. -/
def LookUpExposed (d : CursorDriver) : Prop :=
  if d.isGuarded then ∃ k, d.firstFailure 3 = some k ∧ (d.answer (k + 1)).failure.isSome = true
  else d.inTransaction = false ∧ ((d.answer 0).failure.isSome = true ∨ d.commitFailure.isSome = true) ∧
    d.rollbackFailure.isSome = true

/-- A failure that nothing stands guard over is met in the call. -/
def Exposed (d : CursorDriver) : DriverCall → Prop
  | .execute _ _ => d.cursorFailure.isSome = true ∨ d.cursorCloseFailure.isSome = true ∨
      d.inTransaction = false ∧ d.statementFailure.isSome = true ∧ d.rollbackFailure.isSome = true
  | .askInsertId => d.identityPending = true ∧ (identityQuery? d.engine).isSome = true ∧
      (d.cursorFailure.isSome = true ∨ d.cursorCloseFailure.isSome = true ∨ d.LookUpExposed)
  | _ => False

/-- The failure that the call is to report. -/
def cause (d : CursorDriver) : DriverCall → Option ModuleFailure
  | .execute _ _ => d.statementFailure
  | .commit => d.commitFailure
  | .rollback => d.rollbackFailure
  | _ => none

/-- The failure reaches the caller in the terms of drivers. -/
def Reports (cause : Option ModuleFailure) (outcome : Except Fault α) : Prop :=
  ∃ f report, cause = some f ∧ f.toDriverFault = .ok report ∧ outcome = .error (.driver report)

/-- An error of the module reaches the caller. -/
def Escapes (outcome : Except Fault α) : Prop := ∃ name, outcome = .error (.foreign name)

/-- The outcome escapes exactly if the call is exposed, and is else a result or a report. -/
structure Answers (exposed : Prop) (cause : Option ModuleFailure) (outcome : Except Fault α) : Prop where
  escapes_iff : Escapes outcome ↔ exposed
  returns : ¬ exposed → (∃ x, outcome = .ok x) ∨ Reports cause outcome

namespace Answers

variable {exposed : Prop} {failure : Option ModuleFailure} {outcome : Except Fault α}

theorem ok (h : ¬ exposed) (x : α) : Answers exposed failure (.ok x) where
  escapes_iff := ⟨fun ⟨_, hname⟩ => (by cases hname), fun hexposed => absurd hexposed h⟩
  returns _ := .inl ⟨x, rfl⟩

theorem foreign (h : exposed) (name : String) : Answers exposed failure (.error (.foreign name) : Except Fault α) where
  escapes_iff := ⟨fun _ => h, fun _ => ⟨name, rfl⟩⟩
  returns hexposed := absurd h hexposed

theorem report (h : ¬ exposed) {f : ModuleFailure} {report : DriverFault} (hreport : f.toDriverFault = .ok report) :
    Answers exposed (some f) (.error (.driver report) : Except Fault α) where
  escapes_iff := ⟨fun ⟨_, hname⟩ => (by cases hname), fun hexposed => absurd hexposed h⟩
  returns _ := .inr ⟨f, report, rfl, hreport, rfl⟩

theorem map {β : Type} (h : Answers exposed failure outcome) (g : α → β) :
    Answers exposed failure (outcome.map g) := by
  cases outcome with
  | ok x =>
      refine .ok (fun hexposed => ?_) (g x)
      obtain ⟨name, hname⟩ := h.escapes_iff.2 hexposed
      cases hname
  | error e =>
      refine ⟨⟨fun ⟨name, hname⟩ => ?_, fun hexposed => ?_⟩, fun hexposed => ?_⟩
      · cases hname
        exact h.escapes_iff.1 ⟨name, rfl⟩
      · obtain ⟨name, hname⟩ := h.escapes_iff.2 hexposed
        cases hname
        exact ⟨name, rfl⟩
      · rcases h.returns hexposed with ⟨x, hx⟩ | ⟨f, report, hf, hreport, herror⟩
        · cases hx
        · cases herror
          exact .inr ⟨f, report, hf, hreport, rfl⟩

end Answers

theorem reported_of_isWritten {f : ModuleFailure} (h : f.IsWritten) :
    ∃ report, f.toDriverFault = .ok report ∧ (reported f : Except Fault α) = .error (.driver report) := by
  obtain ⟨report, hreport⟩ := f.toDriverFault_of_isWritten h
  refine ⟨report, hreport, ?_⟩
  unfold reported
  rw [hreport]
  rfl

theorem resultOf_of_counted {reply : CursorReply} (h : reply.rowCount = .null ∨ ∃ n, reply.rowCount = .int n) :
    ∃ result, resultOf reply = .ok result := by
  have hcount : ∃ n, (if reply.rowCount.isTruthy then reply.rowCount else .int 0) = .int n := by
    rcases h with hnull | ⟨n, hn⟩
    · exact ⟨0, by rw [hnull]; rfl⟩
    · rw [hn]
      split
      · exact ⟨n, rfl⟩
      · exact ⟨0, rfl⟩
  obtain ⟨n, hn⟩ := hcount
  unfold resultOf
  dsimp only
  rw [hn]
  exact ⟨_, rfl⟩

/-- An answer is one of those that are given, or nothing is told. -/
theorem answer_mem_or (d : CursorDriver) (k : Nat) : d.answer k ∈ d.replies ∨ d.answer k = {} := by
  unfold answer
  cases hk : d.replies[k]? with
  | none => exact .inr rfl
  | some reply => exact .inl (List.mem_of_getElem? hk)

/-- An answer with a row count gives a result, and so does no answer. -/
theorem resultOf_reply {d : CursorDriver}
    (hcounted : ∀ reply ∈ d.replies, reply.rowCount = .null ∨ ∃ n, reply.rowCount = .int n) :
    ∃ result, resultOf d.reply = .ok result := by
  rw [← answer_zero]
  rcases d.answer_mem_or 0 with hmem | hnone
  · exact resultOf_of_counted (hcounted _ hmem)
  · rw [hnone]
    exact resultOf_of_counted (.inr ⟨-1, rfl⟩)

theorem identifierOf_answer {d : CursorDriver}
    (hidentified : ∀ reply ∈ d.replies, ∃ id, identifierOf (firstCell reply) = .ok id) (k : Nat) :
    ∃ id, identifierOf (firstCell (d.answer k)) = .ok id := by
  rcases d.answer_mem_or k with hmem | hnone
  · exact hidentified _ hmem
  · rw [hnone]
    exact ⟨.null, rfl⟩

theorem passed_met_cases (failure : Option ModuleFailure) (x : α) :
    failure.isSome = true ∧ (∃ name, passed (met failure x) = .error (.foreign name)) ∨
      failure.isSome = false ∧ passed (met failure x) = .ok x := by
  cases failure with
  | some f => exact .inl ⟨rfl, _, rfl⟩
  | none => exact .inr ⟨rfl, rfl⟩

/-- What reading the identifier gives is a cell of an answer, if no failure gets past it. -/
theorem lookUpOutcome_cases {d : CursorDriver}
    (hidentified : ∀ reply ∈ d.replies, ∃ id, identifierOf (firstCell reply) = .ok id) :
    d.LookUpExposed ∧ (∃ name, d.lookUpOutcome = .error (.foreign name)) ∨
      ¬ d.LookUpExposed ∧ ∃ cell id, d.lookUpOutcome = .ok cell ∧ identifierOf cell = .ok id := by
  unfold LookUpExposed lookUpOutcome
  cases hguarded : d.isGuarded with
  | true =>
      simp only [if_true]
      cases hfirst : d.firstFailure 3 with
      | none =>
          obtain ⟨id, hid⟩ := identifierOf_answer hidentified 1
          exact .inr ⟨by simp, _, id, rfl, hid⟩
      | some k =>
          rcases passed_met_cases (d.answer (k + 1)).failure Value.null with ⟨hsome, hforeign⟩ | ⟨hnone, hok⟩
          · exact .inl ⟨⟨k, rfl, hsome⟩, hforeign⟩
          · refine .inr ⟨?_, .null, .null, hok, rfl⟩
            rintro ⟨k', hk', hsome⟩
            cases hk'
            rw [hnone] at hsome
            cases hsome
  | false =>
      simp only [Bool.false_eq_true, if_false]
      obtain ⟨id, hid⟩ := identifierOf_answer hidentified 0
      cases hin : d.inTransaction with
      | true =>
          simp only [if_true]
          refine .inr ⟨by simp, ?_⟩
          split
          · exact ⟨.null, .null, rfl, rfl⟩
          · exact ⟨_, id, rfl, hid⟩
      | false =>
          simp only [Bool.false_eq_true, if_false, true_and, ← Bool.or_eq_true]
          cases hfailed : (d.answer 0).failure.isSome || d.commitFailure.isSome with
          | true =>
              simp only [if_true, true_and]
              rcases passed_met_cases d.rollbackFailure Value.null with ⟨hsome, hforeign⟩ | ⟨hnone, hok⟩
              · exact .inl ⟨hsome, hforeign⟩
              · exact .inr ⟨by simp [hnone], .null, .null, hok, rfl⟩
          | false => exact .inr ⟨by simp, _, id, rfl, hid⟩

section Call

variable {d : CursorDriver} (hopen : d.isOpen = true) (hdeclared : ∀ f ∈ d.failures, d.Declares f)
  (hwritten : ∀ f ∈ d.failures, f.IsWritten)

include hopen hdeclared hwritten

/-- If a cursor is given and can be closed, a statement is answered unless the rollback behind its failure fails. -/
theorem answers_attempted (s : String) (values : List Value) (hcursor : d.cursorFailure = none)
    (hclose : d.cursorCloseFailure = none)
    (hcounted : ∀ reply ∈ d.replies, reply.rowCount = .null ∨ ∃ n, reply.rowCount = .int n) :
    Answers (d.inTransaction = false ∧ d.statementFailure.isSome = true ∧ d.rollbackFailure.isSome = true)
      d.statementFailure (exec (execute (.text s) values) (d, [])).1 := by
  have hsql : d.style.convertValue (.text s) = .ok (.text (d.style.convert s)) := rfl
  rw [exec_execute_converted hopen hsql hcursor fun f hf => hdeclared f (mem_failures_of_statement hf), hclose]
  unfold attemptOutcome
  cases hfailure : d.statementFailure with
  | none =>
      obtain ⟨result, hresult⟩ := resultOf_reply hcounted
      dsimp only
      rw [hresult]
      obtain ⟨outcome, d', hremember, houtcome⟩ := exec_remember d.engine (.text s) result d.advance
        ([] ++ .cursor (.text (d.style.convert s)) (some (d.style.bind values)) :: d.statementEnd ++ [.cursorClose])
      dsimp only
      rw [hremember]
      rcases houtcome with hok | ⟨e, hadds, -⟩
      · rw [hok]
        exact .ok (by simp) result
      · cases hadds
  | some f =>
      obtain ⟨report, hreport, hreported⟩ := reported_of_isWritten (α := Except Fault QueryResult)
        (hwritten f (mem_failures_of_statement hfailure))
      dsimp only
      rw [hreported]
      cases hin : d.inTransaction with
      | true => exact .report (by simp) hreport
      | false =>
          cases hrollback : d.rollbackFailure with
          | some g => exact .foreign ⟨rfl, rfl, rfl⟩ _
          | none => exact .report (by simp) hreport

theorem answers_execute (s : String) (values : List Value)
    (hcounted : ∀ reply ∈ d.replies, reply.rowCount = .null ∨ ∃ n, reply.rowCount = .int n) :
    Answers (d.Exposed (.execute (.text s) values)) d.statementFailure (exec (execute (.text s) values) (d, [])).1 := by
  cases hcursor : d.cursorFailure with
  | some f =>
      have hexposed : d.Exposed (.execute (.text s) values) := .inl (by rw [hcursor]; rfl)
      unfold execute
      rw [guards_requireOpen.exec_checked, if_pos hopen, exec_state_bind]
      change Answers _ _ (exec (withCursor (attempt d _ (d.style.bind values)) >>= _) (d, [])).1
      rw [exec_bind, exec_withCursor, hcursor]
      exact .foreign hexposed _
  | none =>
      cases hclose : d.cursorCloseFailure with
      | some f =>
          rw [exec_execute_converted hopen rfl hcursor fun f hf => hdeclared f (mem_failures_of_statement hf), hclose]
          exact .foreign (.inr (.inl (by rw [hclose]; rfl))) _
      | none =>
          have hexposed : d.Exposed (.execute (.text s) values) ↔ d.inTransaction = false ∧
              d.statementFailure.isSome = true ∧ d.rollbackFailure.isSome = true := by
            simp [Exposed, hcursor, hclose]
          rw [hexposed]
          exact answers_attempted hopen hdeclared hwritten s values hcursor hclose hcounted

/-- The identifier is read, and what is read is a number or a text. -/
theorem answers_readIdentity (query : String)
    (hidentified : ∀ reply ∈ d.replies, ∃ id, identifierOf (firstCell reply) = .ok id) :
    Answers (d.cursorFailure.isSome = true ∨ d.cursorCloseFailure.isSome = true ∨ d.LookUpExposed) none
      (exec (readIdentity query) (d, [])).1 := by
  have htext : ∀ f ∈ d.failures, ∃ text, f.text = .ok text := fun f hf => f.text_of_isWritten (hwritten f hf)
  obtain ⟨n, hends⟩ := ends_lookUp hdeclared htext query []
  rw [exec_readIdentity hopen, exec_withCursor]
  unfold ends at hends
  generalize exec (lookUp d query) (d, []) = looked at hends ⊢
  obtain ⟨outcome, d', entries⟩ := looked
  obtain ⟨rfl, rfl⟩ := Prod.mk.inj hends
  have hskip : (d.skip n).cursorCloseFailure = d.cursorCloseFailure := rfl
  cases d.cursorFailure with
  | some f => exact .foreign (.inl rfl) _
  | none =>
      dsimp only
      rw [hskip]
      cases d.cursorCloseFailure with
      | some f => exact .foreign (.inr (.inl rfl)) _
      | none =>
          rcases lookUpOutcome_cases hidentified with ⟨hexposed, name, hforeign⟩ | ⟨hexposed, cell, id, hcell, hid⟩
          · dsimp only
            rw [hforeign]
            exact .foreign (.inr (.inr hexposed)) _
          · dsimp only
            rw [hcell]
            dsimp only
            rw [hid]
            exact .ok (by simpa using hexposed) id

theorem answers_askInsertId
    (hidentified : ∀ reply ∈ d.replies, ∃ id, identifierOf (firstCell reply) = .ok id) :
    Answers (d.Exposed .askInsertId) none (exec askInsertId (d, [])).1 := by
  rcases d.idle_or_asks with hidle | ⟨query, hpending, hquery⟩
  · obtain ⟨d', hexec⟩ := exec_askInsertId_idle hidle []
    rw [hexec]
    refine .ok (fun hexposed => ?_) _
    unfold Exposed at hexposed
    rcases hidle with hsettled | hquery
    · rw [hsettled] at hexposed
      cases hexposed.1
    · rw [hquery] at hexposed
      cases hexposed.2.1
  · have hread := answers_readIdentity (d := d.settled) hopen hdeclared hwritten query hidentified
    have hexposed : d.Exposed .askInsertId ↔ d.settled.cursorFailure.isSome = true ∨
        d.settled.cursorCloseFailure.isSome = true ∨ d.settled.LookUpExposed :=
      ⟨fun h => h.2.2, fun h => ⟨hpending, by rw [hquery]; rfl, h⟩⟩
    rw [exec_askInsertId hpending hquery, hexposed]
    generalize exec (readIdentity query) (d.settled, []) = r at hread ⊢
    obtain ⟨e | id, w'⟩ := r
    · exact hread
    · exact hread

omit hopen in
/-- The end of a transaction reports its failure. -/
theorem answers_finish (entry : WireEntry) {failure : CursorDriver → Option ModuleFailure}
    (hfailure : ∀ f, failure d = some f → f ∈ d.failures) :
    Answers False (failure d) (exec (finish (Call.signal entry failure)) (d, [])).1 := by
  unfold finish
  rw [exec_andFinally_update, Call.exec_handled, Call.exec_signal]
  cases hf : failure d with
  | none => exact .ok not_false ()
  | some f =>
      have hmem := hfailure f hf
      obtain ⟨report, hreport, hreported⟩ := reported_of_isWritten (α := Unit) (hwritten f hmem)
      dsimp only [met]
      rw [if_neg (Bool.eq_false_iff.mp (hdeclared f hmem).handled), exec_report, hreported]
      exact .report not_false hreport

end Call

/-- Every call on an open connection is answered, or exposed. -/
theorem answers {d : CursorDriver} {c : DriverCall} (hopen : d.isOpen = true) (hc : c ≠ .close)
    (hdeclared : ∀ f ∈ d.failures, d.Declares f) (o : CallConduct) (hreplies : d.replies = o.replies)
    (hfailures : d.failures = o.failures) (hproper : Proper o c) :
    Answers (d.Exposed c) (d.cause c) (c.on (.cursor d)).1 := by
  have hwritten : ∀ f ∈ d.failures, f.IsWritten := fun f hf => hproper.written f (hfailures ▸ hf)
  cases c with
  | begin =>
      change Answers False none (exec begin (d, [])).1
      unfold begin
      rw [guards_requireOpen.exec_checked, if_pos hopen]
      exact .ok not_false ()
  | commit =>
      change Answers False d.commitFailure (exec commit (d, [])).1
      unfold commit
      rw [guards_requireOpen.exec_checked, if_pos hopen]
      exact answers_finish hdeclared hwritten .commit fun f hf => mem_failures_of_commit hf
  | rollback =>
      change Answers False d.rollbackFailure (exec rollback (d, [])).1
      rw [exec_rollback, if_pos hopen]
      exact answers_finish hdeclared hwritten .rollback fun f hf => by simp [failures, hf]
  | close => exact absurd rfl hc
  | execute sql values =>
      obtain ⟨s, rfl⟩ := hproper.statement sql values rfl
      exact (answers_execute hopen hdeclared hwritten s values (hreplies ▸ hproper.counted)).map _
  | askInsertId =>
      exact (answers_askInsertId hopen hdeclared hwritten (hreplies ▸ hproper.identified rfl)).map _

/-- Throughout a history on an open connection, an error of the module reaches the caller exactly where a failure is
met that nothing stands guard over; every other call returns, or reports its failure in the terms of drivers. -/
theorem history_answers (d : CursorDriver) (hopen : d.isOpen = true) (h : List (CallConduct × DriverCall))
    (hopened : ∀ m ∈ h, m.2 ≠ .close) (hdeclared : ∀ m ∈ h, ∀ f ∈ m.1.failures, d.Declares f)
    (hproper : ∀ m ∈ h, Proper m.1 m.2) :
    ∀ t ∈ history d h, Answers (t.1.Exposed t.2) (t.1.cause t.2) (t.2.on (.cursor t.1)).1 := by
  intro t ht
  have hkept := forall_history (P := fun d' => d'.isOpen = true ∧ d'.catchesAll = d.catchesAll) (h := h)
    (fun _ _ hd => hd) (fun m hm d' hd => ⟨(isOpen_left d' (hopened m hm)).trans hd.1,
      (catchesAll_left d' m.2).trans hd.2⟩) ⟨hopen, rfl⟩ t ht
  obtain ⟨⟨hstillOpen, hscope⟩, m, hm, hcall, hreplies, hfailures⟩ := hkept
  refine answers hstillOpen (hcall ▸ hopened m hm) (fun f hf => ?_) m.1 hreplies hfailures (hcall ▸ hproper m hm)
  unfold Declares
  rw [hscope]
  exact hdeclared m hm f (hfailures ▸ hf)

/-- An insertion that fails, then one in a transaction, whose identifier is read back, and a commit that fails. -/
def troubled : List (CallConduct × DriverCall) := [
  ({ replies := [{ failure := some { details := [.text "Duplicate entry"] } }] },
    .execute (.text "INSERT INTO t VALUES (1)") []),
  ({}, .begin),
  ({ replies := [{ rowCount := .int 1 }] }, .execute (.text "INSERT INTO t VALUES (2)") []),
  ({ replies := [{}, { columns := ["lastval"], rows := [[.int 7]] }] }, .askInsertId),
  ({ commitFailure := some { details := [.text "Lost connection"] } }, .commit)]

theorem proper_troubled : ∀ m ∈ troubled, Proper m.1 m.2 := by
  have hwritten : ∀ s : String, ({ details := [.text s] } : ModuleFailure).IsWritten := fun s v hv =>
    ⟨s, by rw [List.mem_singleton.1 hv]; rfl⟩
  intro m hm
  simp only [troubled, List.mem_cons, List.not_mem_nil, or_false] at hm
  rcases hm with rfl | rfl | rfl | rfl | rfl
  · exact ⟨by simp, by simp, by simpa [CallConduct.failures] using hwritten _, by simp⟩
  · exact ⟨by simp, by simp, by simp [CallConduct.failures], by simp⟩
  · exact ⟨by simp, by simp, by simp [CallConduct.failures], by simp⟩
  · exact ⟨by simp, by simp, by simp [CallConduct.failures], by simp [firstCell, identifierOf, Pure.pure, Except.pure]⟩
  · exact ⟨by simp, by simp, by simpa [CallConduct.failures] using hwritten _, by simp⟩

theorem history_answers_troubled : (history fresh troubled).length = 5 ∧
    (history fresh troubled).Forall fun t =>
      Answers (t.1.Exposed t.2) (t.1.cause t.2) (t.2.on (.cursor t.1)).1 :=
  ⟨rfl, List.forall_iff_forall_mem.2
    (history_answers fresh rfl troubled (by simp [troubled])
      (by simp [troubled, CallConduct.failures, Declares]) proper_troubled)⟩

/-- The connection is lost: the statement fails, and so does the rollback behind it. -/
def lost : CallConduct where
  replies := [{ failure := some { className := "OperationalError", details := [.int 2013, .text "Lost connection"] } }]
  rollbackFailure := some { className := "OperationalError", details := [.int 2006, .text "Server has gone away"] }

/-- The caller then meets the error of the module, and no report of the statement. -/
theorem not_history_answers_lost : history fresh [(lost, .execute (.text "SELECT 1") [])] =
      [(fresh.facing lost, .execute (.text "SELECT 1") [])] ∧
    ((DriverCall.execute (.text "SELECT 1") []).on (.cursor (fresh.facing lost))).1 =
      .error (.foreign "OperationalError") :=
  ⟨rfl, rfl⟩

end CursorDriver

end SqlBuilder
