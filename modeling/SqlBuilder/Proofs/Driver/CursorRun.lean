import SqlBuilder.Proofs.Driver.Call

/-!
What the calls of a driver for connections with cursors come to, step by step: which failure a statement meets, what
has reached the connection by then, and what is raised. A failure that the module declares is handled, so here all of
them are taken to be declared.
-/

namespace SqlBuilder

variable {α : Type}

namespace WireEntry

/-- The connection is told to end the transaction that it is in. -/
def isEnd : WireEntry → Bool
  | commit => true
  | rollback => true
  | _ => false

def isCursorClose : WireEntry → Bool
  | cursorClose => true
  | _ => false

end WireEntry

namespace CursorDriver

open Talk

/-- The failure is one that the module declares. -/
def Declares (d : CursorDriver) (f : ModuleFailure) : Prop := d.catchesAll = true ∨ f.isForeign = false

theorem Declares.handled {d : CursorDriver} {f : ModuleFailure} (h : d.Declares f) :
    (f.isForeign && !d.catchesAll) = false := by
  rcases h with hall | hown
  · rw [hall, Bool.not_true, Bool.and_false]
  · rw [hown, Bool.false_and]

def reply (d : CursorDriver) : CursorReply := d.replies.head?.getD {}

def advance (d : CursorDriver) : CursorDriver := { d with replies := d.replies.tail }

/-- The outcome of a call of the connection with that failure, if there is one. -/
def met (failure : Option ModuleFailure) (x : α) : Except ModuleFailure α :=
  match failure with
  | some f => .error f
  | none => .ok x

/-- The outcome of a call of the connection whose failure is let through. -/
def passed : Except ModuleFailure α → Except Fault α
  | .ok x => .ok x
  | .error f => .error (.foreign f.className)

/-- What is raised on a failure that is reported. -/
def reported (f : ModuleFailure) : Except Fault α := f.toDriverFault >>= fun fault => .error (.driver fault)

variable {d : CursorDriver} {entries : List WireEntry}

theorem exec_report (f : ModuleFailure) (w : CursorDriver × List WireEntry) :
    exec (report f : Talk CursorDriver α) w = (reported f, w) := by
  unfold report reported
  cases f.toDriverFault with
  | ok fault => rfl
  | error e => rfl

namespace Call

theorem exec_execute (sql : Value) (values : Option Parameters) :
    exec (Call.execute sql values) (d, entries) =
      (met d.reply.failure d.reply, d.advance, entries ++ [.cursor sql values]) := by
  unfold Call.execute emit reply met
  simp only [exec_bind, exec_modify, exec_get]
  cases (d.replies.head?.getD {}).failure with
  | some f => rfl
  | none => rfl

theorem exec_signal (entry : WireEntry) (failure : CursorDriver → Option ModuleFailure) :
    exec (signal entry failure) (d, entries) = (met (failure d) (), d, entries ++ [entry]) := by
  unfold signal emit met
  simp only [exec_bind, exec_modify, exec_get]
  cases failure d with
  | some f => rfl
  | none => rfl

theorem exec_openCursor : exec openCursor (d, entries) = (met d.cursorFailure (), d, entries) := by
  unfold openCursor met
  simp only [exec_bind, exec_get]
  cases d.cursorFailure with
  | some f => rfl
  | none => rfl

/-- The outcome of a call of the connection is looked at. -/
theorem exec_run_bind {β : Type} (call : Call α) (k : Except ModuleFailure α → Talk CursorDriver β)
    (w : CursorDriver × List WireEntry) :
    exec ((liftM (ExceptT.run call : StateM _ _) : Talk CursorDriver _) >>= k) w =
      exec (k (exec call w).1) (exec call w).2 := by
  rw [exec_bind]
  rfl

theorem exec_bare (call : Call α) (w : CursorDriver × List WireEntry) :
    exec call.bare w = (passed (exec call w).1, (exec call w).2) := by
  unfold bare
  rw [exec_run_bind]
  cases (exec call w).1 with
  | ok x => rfl
  | error f => rfl

theorem exec_handled (call : Call α) (handler : ModuleFailure → Talk CursorDriver α)
    (w : CursorDriver × List WireEntry) :
    exec (call.handled handler) w =
      match exec call w with
      | (.ok x, w') => (.ok x, w')
      | (.error f, w') =>
        if f.isForeign && !w'.1.catchesAll then (.error (.foreign f.className), w') else exec (handler f) w' := by
  unfold handled
  rw [exec_run_bind]
  rcases exec call w with ⟨outcome, w'⟩
  cases outcome with
  | ok x => rfl
  | error f =>
      dsimp only
      rw [exec_state_bind]
      split
      · rfl
      · rfl

end Call

theorem exec_withCursor (op : Talk CursorDriver α) (entries : List WireEntry) :
    exec (withCursor op) (d, entries) =
      match d.cursorFailure with
      | some f => (.error (.foreign f.className), d, entries)
      | none =>
        let (outcome, d', entries') := exec op (d, entries)
        ((match d'.cursorCloseFailure with
          | some f => .error (.foreign f.className)
          | none => outcome), d', entries' ++ [.cursorClose]) := by
  unfold withCursor
  rw [exec_bind, Call.exec_bare, Call.exec_openCursor]
  cases d.cursorFailure with
  | some f => rfl
  | none =>
      dsimp only [met, passed]
      unfold andFinally
      rw [exec_bind, exec_tryCatch, exec_bind]
      rcases exec op (d, entries) with ⟨outcome, d', entries'⟩
      cases outcome with
      | ok x =>
          simp only [exec_pure, exec_bind, Call.exec_bare, Call.closeCursor, Call.exec_signal]
          cases d'.cursorCloseFailure with
          | some f => rfl
          | none => rfl
      | error e =>
          simp only [exec_pure, exec_bind, Call.exec_bare, Call.closeCursor, Call.exec_signal]
          cases d'.cursorCloseFailure with
          | some f => rfl
          | none => rfl

/-! ### Statements -/

/-- The statement has succeeded and is to be committed. -/
def sendsCommit (d : CursorDriver) : Bool :=
  d.reply.failure.isNone && (resultOf d.reply).isOk && !d.inTransaction

/-- The failure of the statement, or else of the commit behind it. -/
def statementFailure (d : CursorDriver) : Option ModuleFailure :=
  match d.reply.failure with
  | some f => some f
  | none => if d.sendsCommit then d.commitFailure else none

/-- The end of the transaction of its own that a statement is in. -/
def statementEnd (d : CursorDriver) : List WireEntry :=
  (if d.sendsCommit then [.commit] else []) ++
    if d.statementFailure.isSome && !d.inTransaction then [.rollback] else []

/-- The outcome of a statement on a cursor. A failure is reported, unless the rollback behind it fails itself. -/
def attemptOutcome (d : CursorDriver) : Except Fault (Except Fault QueryResult) :=
  match d.statementFailure with
  | none => .ok (resultOf d.reply)
  | some f =>
    match (if d.inTransaction then none else d.rollbackFailure) with
    | none => reported f
    | some g => .error (.foreign g.className)

theorem reported_ne_ok (f : ModuleFailure) (x : α) : (reported f : Except Fault α) ≠ .ok x := by
  unfold reported
  cases f.toDriverFault with
  | ok fault => exact fun h => by cases h
  | error e => exact fun h => by cases h

theorem attemptOutcome_eq_ok {outcome : Except Fault QueryResult} (h : d.attemptOutcome = .ok outcome) :
    d.statementFailure = none ∧ resultOf d.reply = outcome := by
  unfold attemptOutcome at h
  split at h
  · exact ⟨‹_›, Except.ok.inj h⟩
  · split at h
    · exact absurd h (reported_ne_ok _ _)
    · cases h

theorem reply_ok_of_statementFailure (h : d.statementFailure = none) : d.reply.failure = none := by
  unfold statementFailure at h
  cases hreply : d.reply.failure with
  | none => rfl
  | some f =>
      rw [hreply] at h
      cases h

theorem exec_submit (sql : Value) (values : Parameters) :
    exec (d.submit sql values) (d, entries) =
      (met d.statementFailure (resultOf d.reply), d.advance,
        entries ++ .cursor sql (some values) :: if d.sendsCommit then [.commit] else []) := by
  unfold submit statementFailure sendsCommit
  rw [exec_bind, Call.exec_execute]
  cases d.reply.failure with
  | some f => rfl
  | none =>
      simp only [met, Option.isNone_none, Bool.true_and]
      split
      · unfold Call.commit
        rw [exec_bind, Call.exec_signal, List.append_assoc]
        have hcommit : d.advance.commitFailure = d.commitFailure := rfl
        rw [hcommit]
        cases d.commitFailure with
        | some f => rfl
        | none => rfl
      · rfl

theorem exec_attempt (sql : Value) (values : Parameters) (hdeclared : ∀ f ∈ d.statementFailure, d.Declares f) :
    exec (attempt d sql values) (d, entries) =
      (d.attemptOutcome, d.advance, entries ++ .cursor sql (some values) :: d.statementEnd) := by
  unfold attempt attemptOutcome statementEnd
  rw [Call.exec_handled, exec_submit]
  cases hfailure : d.statementFailure with
  | none => simp [met]
  | some f =>
      have hhandled : (f.isForeign && !d.advance.catchesAll) = false := (hdeclared f hfailure).handled
      simp only [met, hhandled]
      cases hin : d.inTransaction with
      | true => simp [exec_report]
      | false =>
          have hrollback : d.advance.rollbackFailure = d.rollbackFailure := rfl
          change exec (Call.rollback.bare >>= fun _ => report f) _ = _
          rw [exec_bind, Call.exec_bare, Call.rollback, Call.exec_signal, hrollback]
          cases d.rollbackFailure with
          | some g => simp [met, passed]
          | none => simp [met, passed, exec_report]

/-- Nothing reaches the connection for what is kept of a result. -/
theorem exec_remember (engine : Engine) (sql : Value) (result : QueryResult) (d : CursorDriver)
    (entries : List WireEntry) :
    ∃ outcome d', exec (remember engine sql result) (d, entries) = (outcome, d', entries) ∧
      (outcome = .ok result ∨ ∃ e, addsRows sql = .error e ∧ outcome = .error e) := by
  have hasked : ∀ d : CursorDriver, ∃ outcome d', exec (do
      let identityPending ← if (identityQuery? engine).isSome && !result.lastInsertId.isTruthy &&
        result.affectedRows.same (.int 1) then addsRows sql else pure false
      Talk.update fun d => { d with identityPending }
      pure result : Talk CursorDriver QueryResult) (d, entries) = (outcome, d', entries) ∧
      (outcome = .ok result ∨ ∃ e, addsRows sql = .error e ∧ outcome = .error e) := by
    intro d
    dsimp only
    split
    · cases hadds : addsRows sql with
      | ok b => exact ⟨_, _, rfl, .inl rfl⟩
      | error e => exact ⟨_, _, rfl, .inr ⟨e, rfl, rfl⟩⟩
    · exact ⟨_, _, rfl, .inl rfl⟩
  unfold remember
  dsimp only
  split
  · exact hasked { d with lastInsertId := result.lastInsertId }
  · exact hasked d

/-- A statement that is executed: what becomes of it on its cursor, of the cursor, and of the result. -/
theorem exec_execute_converted {sql converted : Value} {values : List Value} (hopen : d.isOpen = true)
    (hsql : d.style.convertValue sql = .ok converted) (hcursor : d.cursorFailure = none)
    (hdeclared : ∀ f ∈ d.statementFailure, d.Declares f) (entries : List WireEntry) :
    exec (execute sql values) (d, entries) =
      let entries' :=
        entries ++ .cursor converted (some (d.style.bind values)) :: d.statementEnd ++ [.cursorClose]
      match d.cursorCloseFailure, d.attemptOutcome with
      | some f, _ => (.error (.foreign f.className), d.advance, entries')
      | none, .error e => (.error e, d.advance, entries')
      | none, .ok (.error e) => (.error e, d.advance, entries')
      | none, .ok (.ok result) => exec (remember d.engine sql result) (d.advance, entries') := by
  have hclose : d.advance.cursorCloseFailure = d.cursorCloseFailure := rfl
  unfold execute
  rw [guards_requireOpen.exec_checked, if_pos hopen, exec_state_bind, hsql]
  change exec (withCursor (attempt d converted (d.style.bind values)) >>= _) (d, entries) = _
  rw [exec_bind, exec_withCursor, hcursor, exec_attempt converted (d.style.bind values) hdeclared]
  dsimp only
  rw [hclose, List.append_assoc, List.cons_append]
  cases d.cursorCloseFailure with
  | some f => rfl
  | none =>
      rcases d.attemptOutcome with e | e | result
      · rfl
      · rfl
      · rfl

/-! ### Generated identifiers -/

def skip (d : CursorDriver) (n : Nat) : CursorDriver := { d with replies := d.replies.drop n }

def answer (d : CursorDriver) (k : Nat) : CursorReply := (d.replies[k]?).getD {}

theorem reply_skip (k : Nat) : (d.skip k).reply = d.answer k := by
  unfold reply answer skip
  rw [List.head?_drop]

theorem answer_zero : d.answer 0 = d.reply := (reply_skip 0).symm

theorem advance_skip (n : Nat) : (d.skip n).advance = d.skip (n + 1) := by
  unfold advance skip
  rw [List.tail_drop]

/-- The first of so many statements that fails. -/
def firstFailure (d : CursorDriver) (n : Nat) : Option Nat :=
  (List.range n).find? fun k => (d.answer k).failure.isSome

/-- What the query for an identifier gives. A failure leaves nothing, unless what is done about it fails itself. -/
def lookUpOutcome (d : CursorDriver) : Except Fault Value :=
  if d.isGuarded then
    match d.firstFailure 3 with
    | some k => passed (met (d.answer (k + 1)).failure .null)
    | none => .ok (firstCell (d.answer 1))
  else if d.inTransaction then
    .ok (if (d.answer 0).failure.isSome then .null else firstCell (d.answer 0))
  else if (d.answer 0).failure.isSome || d.commitFailure.isSome then passed (met d.rollbackFailure .null)
  else .ok (firstCell (d.answer 0))

/-- A statement on a cursor, with the driver told by the number of statements before it. -/
theorem Call.exec_execute_bind (n : Nat) (sql : Value) (values : Option Parameters) (k : CursorReply → Call α) :
    exec (Call.execute sql values >>= k) (d.skip n, entries) =
      match (d.answer n).failure with
      | some f => (.error f, d.skip (n + 1), entries ++ [.cursor sql values])
      | none => exec (k (d.answer n)) (d.skip (n + 1), entries ++ [.cursor sql values]) := by
  rw [exec_bind, exec_execute, reply_skip, advance_skip]
  cases (d.answer n).failure with
  | some f => rfl
  | none => rfl

/-- The outcome of an operation and the driver that it leaves. -/
def ends {ε : Type} (op : ExceptT ε (StateM (CursorDriver × List WireEntry)) α)
    (w : CursorDriver × List WireEntry) : Except ε α × CursorDriver := ((exec op w).1, (exec op w).2.1)

/-- A call of the connection that comes last and only its failure counts. -/
theorem ends_bind_pure {ε β : Type} (op : ExceptT ε (StateM (CursorDriver × List WireEntry)) α) (y : β)
    (w : CursorDriver × List WireEntry) :
    ends (op >>= fun _ => pure y) w = ((exec op w).1.map fun _ => y, (exec op w).2.1) := by
  unfold ends
  rw [exec_bind]
  rcases exec op w with ⟨outcome, w'⟩
  cases outcome with
  | ok x => rfl
  | error e => rfl

theorem map_met (failure : Option ModuleFailure) {β : Type} (x : α) (y : β) :
    (met failure x).map (fun _ => y) = met failure y := by
  cases failure with
  | some f => rfl
  | none => rfl

theorem map_passed_met (failure : Option ModuleFailure) {β : Type} (x : α) (y : β) :
    (passed (met failure x)).map (fun _ => y) = passed (met failure y) := by
  cases failure with
  | some f => rfl
  | none => rfl

/-- In a transaction of PostgreSQL the first failure among the three statements counts. -/
theorem ends_fetchIdentity_guarded (hguarded : d.isGuarded = true) (query : String) (entries : List WireEntry) :
    ends (fetchIdentity d query) (d, entries) =
      match d.firstFailure 3 with
      | some k => (met (d.answer k).failure .null, d.skip (k + 1))
      | none => (.ok (firstCell (d.answer 1)), d.skip 3) := by
  have hrange : List.range 3 = [0, 1, 2] := rfl
  unfold fetchIdentity firstFailure ends
  dsimp only
  rw [if_pos hguarded, hrange]
  change (((exec _ (d.skip 0, entries)).1, (exec _ (d.skip 0, entries)).2.1) : _ × _) = _
  rw [Call.exec_execute_bind 0]
  cases h0 : (d.answer 0).failure with
  | some f => simp [h0, met]
  | none =>
      dsimp only
      rw [Call.exec_execute_bind 1]
      cases h1 : (d.answer 1).failure with
      | some f => simp [h0, h1, met]
      | none =>
          dsimp only
          rw [if_pos hguarded, Call.exec_execute_bind 2]
          cases h2 : (d.answer 2).failure with
          | some f => simp [h0, h1, h2, met]
          | none => simp [h0, h1, h2]

/-- Outside a transaction the query is committed, and in one of another engine it stands alone. -/
theorem ends_fetchIdentity (hguarded : d.isGuarded = false) (query : String) (entries : List WireEntry) :
    ends (fetchIdentity d query) (d, entries) =
      ((match (d.answer 0).failure with
        | some f => .error f
        | none => met (if d.inTransaction then none else d.commitFailure) (firstCell (d.answer 0))), d.skip 1) := by
  unfold fetchIdentity ends
  dsimp only
  rw [if_neg (Bool.eq_false_iff.mp hguarded)]
  change (((exec _ (d.skip 0, entries)).1, (exec _ (d.skip 0, entries)).2.1) : _ × _) = _
  rw [Call.exec_execute_bind 0]
  cases (d.answer 0).failure with
  | some f => rfl
  | none =>
      dsimp only
      rw [if_neg (Bool.eq_false_iff.mp hguarded)]
      cases d.inTransaction with
      | true => rfl
      | false =>
          change ends (Call.commit >>= fun _ => pure (firstCell (d.answer 0))) _ = _
          rw [ends_bind_pure, Call.commit, Call.exec_signal, map_met]
          rfl

/-- A failed query is followed by the return to the savepoint, or outside a transaction by a rollback. -/
theorem ends_recover (n : Nat) (entries : List WireEntry) : ∃ n', ends (recover d) (d.skip n, entries) =
    (passed (met (if d.isGuarded then (d.answer n).failure
      else if d.inTransaction then none else d.rollbackFailure) ()), d.skip n') := by
  unfold recover
  cases hguarded : d.isGuarded with
  | true =>
      refine ⟨n + 1, ?_⟩
      change ends ((Call.execute _ none).bare >>= fun _ => pure ()) _ = _
      rw [ends_bind_pure, Call.exec_bare, Call.exec_execute, reply_skip, advance_skip, map_passed_met]
      rfl
  | false =>
      refine ⟨n, ?_⟩
      cases hin : d.inTransaction with
      | true => rfl
      | false =>
          change ends Call.rollback.bare _ = _
          unfold ends
          rw [Call.exec_bare, Call.rollback, Call.exec_signal]
          rfl

theorem ends_giveUp (n : Nat) (query : String) {f : ModuleFailure} {text : String} (htext : f.text = .ok text)
    (entries : List WireEntry) :
    ∃ n', ends (giveUp d query f) (d.skip n, entries) =
      (passed (met (if d.isGuarded then (d.answer n).failure
        else if d.inTransaction then none else d.rollbackFailure) Value.null), d.skip n') := by
  have hgiveUp : giveUp d query f = (do
      Talk.emit (.warn ("Failed to read generated id with " ++ query ++ ": " ++ text))
      d.recover
      pure .null) := by
    unfold giveUp
    rw [htext]
    rfl
  obtain ⟨n', hrecover⟩ := d.ends_recover n
    (entries ++ [.warn ("Failed to read generated id with " ++ query ++ ": " ++ text)])
  refine ⟨n', ?_⟩
  rw [hgiveUp]
  change ends (d.recover >>= fun _ => pure Value.null) (d.skip n, entries ++ [_]) = _
  unfold ends at hrecover
  obtain ⟨houtcome, hleft⟩ := Prod.mk.inj hrecover
  rw [ends_bind_pure, houtcome, hleft, map_passed_met]

/-- The failures that the calls of the connection may meet. -/
def failures (d : CursorDriver) : List ModuleFailure :=
  d.replies.filterMap (·.failure) ++ d.commitFailure.toList ++ d.rollbackFailure.toList ++
    d.cursorFailure.toList ++ d.cursorCloseFailure.toList

theorem mem_failures_of_answer {k : Nat} {f : ModuleFailure} (h : (d.answer k).failure = some f) :
    f ∈ d.failures := by
  have hreply : d.answer k ∈ d.replies := by
    unfold answer at h ⊢
    cases hk : d.replies[k]? with
    | none => rw [hk] at h; cases h
    | some reply => exact List.mem_of_getElem? hk
  simp only [failures, List.mem_append, List.mem_filterMap]
  exact .inl (.inl (.inl (.inl ⟨_, hreply, h⟩)))

theorem mem_failures_of_commit {f : ModuleFailure} (h : d.commitFailure = some f) : f ∈ d.failures := by
  simp [failures, h]

theorem mem_failures_of_statement {f : ModuleFailure} (h : d.statementFailure = some f) : f ∈ d.failures := by
  unfold statementFailure at h
  cases hreply : d.reply.failure with
  | some g =>
      rw [hreply] at h
      cases h
      rw [← answer_zero] at hreply
      exact mem_failures_of_answer hreply
  | none =>
      rw [hreply] at h
      exact mem_failures_of_commit (Option.ite_none_right_eq_some.1 h).2

theorem ends_handled_ok {call : Call α} {handler : ModuleFailure → Talk CursorDriver α}
    {w : CursorDriver × List WireEntry} {x : α} {d' : CursorDriver} (h : ends call w = (.ok x, d')) :
    ends (call.handled handler) w = (.ok x, d') := by
  unfold ends at h ⊢
  rw [Call.exec_handled]
  generalize exec call w = r at h ⊢
  obtain ⟨outcome, w'⟩ := r
  obtain ⟨rfl, rfl⟩ := Prod.mk.inj h
  rfl

theorem ends_handled_error {call : Call α} {w : CursorDriver × List WireEntry} {f : ModuleFailure}
    {d' : CursorDriver} (h : ends call w = (.error f, d')) (hdeclared : d'.Declares f)
    (handler : ModuleFailure → Talk CursorDriver α) :
    ∃ entries', ends (call.handled handler) w = ends (handler f) (d', entries') := by
  unfold ends at h ⊢
  rw [Call.exec_handled]
  generalize exec call w = r at h ⊢
  obtain ⟨outcome, w'⟩ := r
  obtain ⟨rfl, rfl⟩ := Prod.mk.inj h
  have hhandled : (f.isForeign && !w'.1.catchesAll) = false := hdeclared.handled
  exact ⟨w'.2, by simp [hhandled]⟩

/-- A failure that the query for an identifier meets is given up on. -/
theorem ends_lookUp_of_error (hdeclared : ∀ f ∈ d.failures, d.Declares f)
    (hwritten : ∀ f ∈ d.failures, ∃ text, f.text = .ok text) {query : String} {entries : List WireEntry} {n : Nat}
    {f : ModuleFailure} (hf : f ∈ d.failures)
    (hfetch : ends (fetchIdentity d query) (d, entries) = (.error f, d.skip n)) :
    ∃ n', ends (lookUp d query) (d, entries) = (passed (met (if d.isGuarded then (d.answer n).failure
      else if d.inTransaction then none else d.rollbackFailure) Value.null), d.skip n') := by
  obtain ⟨text, htext⟩ := hwritten f hf
  obtain ⟨entries', hhandled⟩ := ends_handled_error hfetch (hdeclared f hf) (giveUp d query)
  obtain ⟨n', hgiveUp⟩ := d.ends_giveUp n query htext entries'
  exact ⟨n', hhandled.trans hgiveUp⟩

/-- Either the query finds a cell, or it fails and what is done about that decides. -/
theorem ends_fetchIdentity_cases (d : CursorDriver) (query : String) (entries : List WireEntry) :
    (∃ n cell, ends (fetchIdentity d query) (d, entries) = (.ok cell, d.skip n) ∧ d.lookUpOutcome = .ok cell) ∨
    ∃ n f, f ∈ d.failures ∧ ends (fetchIdentity d query) (d, entries) = (.error f, d.skip n) ∧
      d.lookUpOutcome = passed (met (if d.isGuarded then (d.answer n).failure
        else if d.inTransaction then none else d.rollbackFailure) Value.null) := by
  unfold lookUpOutcome
  cases hguarded : d.isGuarded with
  | true =>
      have hfetch := ends_fetchIdentity_guarded hguarded query entries
      cases hfirst : d.firstFailure 3 with
      | none =>
          rw [hfirst] at hfetch
          exact .inl ⟨3, _, hfetch, rfl⟩
      | some k =>
          have hfails := List.find?_some (p := fun k => (d.answer k).failure.isSome) hfirst
          obtain ⟨f, hf⟩ := Option.isSome_iff_exists.1 hfails
          rw [hfirst] at hfetch
          dsimp only at hfetch
          rw [hf] at hfetch
          exact .inr ⟨k + 1, f, mem_failures_of_answer hf, hfetch, rfl⟩
  | false =>
      have hfetch := ends_fetchIdentity hguarded query entries
      cases hanswer : (d.answer 0).failure with
      | some f =>
          rw [hanswer] at hfetch
          refine .inr ⟨1, f, mem_failures_of_answer hanswer, hfetch, ?_⟩
          cases d.inTransaction with
          | true => rfl
          | false => rfl
      | none =>
          rw [hanswer] at hfetch
          cases hin : d.inTransaction with
          | true =>
              rw [hin] at hfetch
              exact .inl ⟨1, _, hfetch, rfl⟩
          | false =>
              rw [hin] at hfetch
              cases hcommit : d.commitFailure with
              | some f =>
                  rw [hcommit] at hfetch
                  exact .inr ⟨1, f, mem_failures_of_commit hcommit, hfetch, rfl⟩
              | none =>
                  rw [hcommit] at hfetch
                  exact .inl ⟨1, _, hfetch, rfl⟩

/-- The query for an identifier, with what is done about its failure. -/
theorem ends_lookUp (hdeclared : ∀ f ∈ d.failures, d.Declares f)
    (hwritten : ∀ f ∈ d.failures, ∃ text, f.text = .ok text) (query : String) (entries : List WireEntry) :
    ∃ n, ends (lookUp d query) (d, entries) = (d.lookUpOutcome, d.skip n) := by
  obtain ⟨n, cell, hfetch, houtcome⟩ | ⟨n, f, hf, hfetch, houtcome⟩ := d.ends_fetchIdentity_cases query entries
  · rw [houtcome]
    exact ⟨n, ends_handled_ok hfetch⟩
  · obtain ⟨n', hlookUp⟩ := ends_lookUp_of_error hdeclared hwritten hf hfetch
    rw [houtcome]
    exact ⟨n', hlookUp⟩

theorem exec_readIdentity (hopen : d.isOpen = true) (query : String) (entries : List WireEntry) :
    exec (readIdentity query) (d, entries) =
      match exec (withCursor (lookUp d query)) (d, entries) with
      | (.ok cell, w') => (identifierOf cell, w')
      | (.error e, w') => (.error e, w') := by
  unfold readIdentity
  rw [guards_requireOpen.exec_checked, if_pos hopen, exec_state_bind, exec_bind]
  rcases exec (withCursor (lookUp d query)) (d, entries) with ⟨e | cell, w'⟩
  · rfl
  · cases hid : identifierOf cell with
    | ok id =>
        dsimp only
        rw [hid]
        rfl
    | error e =>
        dsimp only
        rw [hid]
        rfl

/-- The driver no longer has to ask for an identifier. -/
def settled (d : CursorDriver) : CursorDriver := { d with identityPending := false }

/-- Either there is no identifier to ask for, or a query of the engine reads it back. -/
theorem idle_or_asks (d : CursorDriver) : (d.identityPending = false ∨ identityQuery? d.engine = none) ∨
    ∃ query, d.identityPending = true ∧ identityQuery? d.engine = some query := by
  cases hpending : d.identityPending with
  | false => exact .inl (.inl rfl)
  | true =>
      cases hquery : identityQuery? d.engine with
      | none => exact .inl (.inr rfl)
      | some query => exact .inr ⟨query, rfl, rfl⟩

theorem exec_askInsertId_idle (h : d.identityPending = false ∨ identityQuery? d.engine = none)
    (entries : List WireEntry) :
    ∃ d', exec askInsertId (d, entries) = (.ok d.lastInsertId, d', entries) := by
  unfold askInsertId
  rw [exec_state_bind]
  cases hpending : d.identityPending with
  | false => exact ⟨d, rfl⟩
  | true =>
      rcases h with hidle | hquery
      · rw [hidle] at hpending
        cases hpending
      · dsimp only
        rw [hquery]
        exact ⟨d.settled, rfl⟩

theorem exec_askInsertId {query : String} (hpending : d.identityPending = true)
    (hquery : identityQuery? d.engine = some query) (entries : List WireEntry) :
    exec askInsertId (d, entries) =
      match exec (readIdentity query) (d.settled, entries) with
      | (.ok id, w') => (.ok id, { w'.1 with lastInsertId := id }, w'.2)
      | (.error e, w') => (.error e, w') := by
  unfold askInsertId
  rw [exec_state_bind]
  dsimp only
  rw [if_pos hpending, hquery]
  change exec (readIdentity query >>= _) (d.settled, entries) = _
  rw [exec_bind]
  rcases exec (readIdentity query) (d.settled, entries) with ⟨e | id, w'⟩
  · rfl
  · rfl

end CursorDriver

end SqlBuilder
