import SqlBuilder.Proofs.Driver.History

/-!
Generated identifiers. A driver keeps the last identifier that it has come to know: a statement tells one with its
cursor, or one is read back when it is asked for. Behind a statement that tells none the driver still keeps that of an
earlier one.
-/

namespace SqlBuilder

variable {α β ε ω : Type}

open Talk

def QueryResult.toldId? (r : QueryResult) : Option Value :=
  if r.lastInsertId.isTruthy then some r.lastInsertId else none

namespace Talk

/-- The outcome of a function without effects. -/
theorem exec_lift {σ : Type} (outcome : Except Fault α) (w : σ × List WireEntry) :
    exec (liftM outcome : Talk σ α) w = (outcome, w) := by
  cases outcome with
  | ok x => rfl
  | error e => rfl

/-- What is kept behind the operation is the identifier that its result tells, and otherwise what was kept before. -/
def Tracks (kept : ω → Value) (op : ExceptT ε (StateM ω) QueryResult) : Prop :=
  ∀ w, kept (exec op w).2 = ((exec op w).1.toOption.bind QueryResult.toldId?).getD (kept w)

namespace Tracks

variable {kept : ω → Value}

theorem throw (e : ε) : Tracks kept (MonadExcept.throw e : ExceptT ε (StateM ω) QueryResult) := fun _ => rfl

/-- What comes before the last operation leaves alone what is kept. -/
theorem bind {op : ExceptT ε (StateM ω) α} {k : α → ExceptT ε (StateM ω) QueryResult} (hop : Leaves kept op)
    (hk : ∀ x, Tracks kept (k x)) : Tracks kept (op >>= k) := by
  intro w
  have hw := hop w
  rw [exec_bind]
  rcases hr : exec op w with ⟨outcome, w'⟩
  rw [hr] at hw
  cases outcome with
  | ok x =>
      dsimp only
      rw [hk x w', hw]
  | error e => exact hw

end Tracks

end Talk

/-! ### What is kept -/

namespace SqliteDriver

/-- The identifier that the driver keeps. -/
abbrev kept (w : SqliteDriver × List WireEntry) : Value := w.1.lastInsertId

theorem leaves_kept_send (sql : Value) (values : List Value) : Leaves kept (send sql values) := by
  refine .bind (.emit _ fun _ _ => rfl) fun _ => .bind .state fun d => .bind (.update fun _ _ => rfl) fun _ => ?_
  split
  · exact .throw _
  · exact .pure _

theorem tracks_execute (sql : Value) (values : List Value) : Tracks kept (execute sql values) := by
  refine .bind guards_requireOpen.leaves fun _ => .bind (leaves_kept_send _ _) fun reply => ?_
  dsimp only
  split
  · intro w
    cases htold : reply.lastRowId.isTruthy with
    | true =>
        rw [if_pos rfl, if_pos rfl]
        change reply.lastRowId = (QueryResult.toldId? _).getD (kept w)
        unfold QueryResult.toldId?
        rw [if_pos htold]
        rfl
    | false =>
        rw [if_neg Bool.false_ne_true, if_neg Bool.false_ne_true]
        rfl
  · exact .throw _

end SqliteDriver

namespace CursorDriver

abbrev kept (w : CursorDriver × List WireEntry) : Value := w.1.lastInsertId

theorem steady_kept : Steady kept where
  cursor _ _ _ _ := rfl
  warn _ _ _ := rfl
  advance _ _ := rfl

theorem leaves_kept_signal (entry : WireEntry) (failure : CursorDriver → Option ModuleFailure) :
    Leaves kept (Call.signal entry failure) := Call.leaves_signal_of failure fun _ _ => rfl

theorem leaves_kept_withCursor {op : Talk CursorDriver α} (h : Leaves kept op) : Leaves kept (withCursor op) :=
  leaves_withCursor (leaves_kept_signal _ _) h

/-- What is remembered of a result: its identifier, and whether there is another one to be asked for. -/
theorem exec_remember_eq (engine : Engine) (sql : Value) (result : QueryResult) (d : CursorDriver)
    (entries : List WireEntry) : exec (remember engine sql result) (d, entries) =
      let known := { d with lastInsertId := result.toldId?.getD d.lastInsertId }
      match (if (identityQuery? engine).isSome && !result.lastInsertId.isTruthy &&
        result.affectedRows.same (.int 1) then addsRows sql else pure false) with
      | .ok identityPending => (.ok result, { known with identityPending }, entries)
      | .error e => (.error e, known, entries) := by
  unfold remember QueryResult.toldId?
  dsimp only
  cases htold : result.lastInsertId.isTruthy with
  | true =>
      rw [if_pos rfl, if_pos rfl]
      simp only [Bool.not_true, Bool.and_false, Bool.false_and, Bool.false_eq_true, if_false]
      rfl
  | false =>
      rw [if_neg Bool.false_ne_true, if_neg Bool.false_ne_true]
      simp only [Bool.not_false, Bool.and_true, Option.getD_none]
      split
      · cases addsRows sql <;> rfl
      · rfl

theorem tracks_remember (engine : Engine) (sql : Value) (result : QueryResult) :
    Tracks kept (remember engine sql result) := by
  intro w
  obtain ⟨d, entries⟩ := w
  rw [exec_remember_eq]
  dsimp only
  cases htold : result.lastInsertId.isTruthy with
  | true =>
      simp only [Bool.not_true, Bool.and_false, Bool.false_and, Bool.false_eq_true, if_false]
      rfl
  | false =>
      have hnone : result.toldId? = none := by
        unfold QueryResult.toldId?
        rw [htold, if_neg Bool.false_ne_true]
      rw [hnone]
      split
      · simp [Except.toOption, hnone]
      · rfl

theorem tracks_execute (sql : Value) (values : List Value) : Tracks kept (execute sql values) := by
  refine .bind guards_requireOpen.leaves fun _ => .bind .state fun d => .bind (.lift _) fun converted => ?_
  have hattempt : Leaves kept (attempt d converted (d.style.bind values)) :=
    leaves_attempt (w := (d, [])) steady_kept (fun _ => ⟨leaves_kept_signal _ _, leaves_kept_signal _ _⟩) _ _
  exact .bind (leaves_kept_withCursor hattempt) fun outcome => .bind (.lift _) fun result => tracks_remember _ _ _

/-- The identifier that is read back when the driver is asked for one. -/
def readBack? (d : CursorDriver) : Option Value :=
  if d.identityPending then
    (identityQuery? d.engine).bind fun query => (exec (readIdentity query) (d.settled, [])).1.toOption
  else none

theorem leaves_kept_readIdentity (query : String) (w : CursorDriver × List WireEntry) :
    kept (exec (readIdentity query) w).2 = kept w :=
  part_readIdentity steady_kept (fun _ => ⟨leaves_kept_signal _ _, leaves_kept_signal _ _⟩)
    (leaves_kept_signal _ _) query

theorem kept_askInsertId (d : CursorDriver) :
    kept (exec askInsertId (d, [])).2 = d.readBack?.getD d.lastInsertId := by
  unfold readBack?
  cases hpending : d.identityPending with
  | false =>
      unfold askInsertId
      rw [exec_state_bind, hpending]
      rfl
  | true =>
      rw [if_pos rfl]
      cases hquery : identityQuery? d.engine with
      | none =>
          unfold askInsertId
          rw [exec_state_bind, hpending, hquery]
          rfl
      | some query =>
          have hkept := leaves_kept_readIdentity query (d.settled, [])
          rw [exec_askInsertId hpending hquery, Option.bind_some]
          rcases hr : exec (readIdentity query) (d.settled, []) with ⟨e | id, w'⟩
          · rw [hr] at hkept
            exact hkept
          · rfl

end CursorDriver

/-! ### The identifier of a statement -/

namespace CursorDriver

variable {d : CursorDriver} {sql : Value} {values : List Value} {w : CursorDriver × List WireEntry}

/-- The identifier of a result is the one that its cursor tells. -/
theorem lastInsertId_of_resultOf {reply : CursorReply} {result : QueryResult} (h : resultOf reply = .ok result) :
    result.lastInsertId = if reply.lastRowId.isTruthy then reply.lastRowId else .null := by
  unfold resultOf at h
  dsimp only at h
  split at h
  · cases h
    rfl
  · cases h

/-- A failure that is reported ends the statement. -/
theorem exec_bind_report_ne_ok {op : Talk CursorDriver β} (f : ModuleFailure) (w : CursorDriver × List WireEntry)
    {x : α} {w' : CursorDriver × List WireEntry} : exec (op >>= fun _ => report f) w ≠ (.ok x, w') := by
  intro h
  obtain ⟨_, w'', -, h⟩ := exec_bind_eq_ok h
  rw [exec_report] at h
  exact reported_ne_ok f x (congrArg Prod.fst h)

theorem attempt_eq_ok {parameters : Parameters} {outcome : Except Fault QueryResult} {entries : List WireEntry}
    (h : exec (attempt d sql parameters) (d, entries) = (.ok outcome, w)) :
    resultOf d.reply = outcome ∧ w.1 = d.advance := by
  unfold attempt at h
  rw [Call.exec_handled, exec_submit] at h
  cases hfailure : d.statementFailure with
  | none =>
      rw [hfailure] at h
      cases h
      exact ⟨rfl, rfl⟩
  | some f =>
      rw [hfailure] at h
      dsimp only [met] at h
      split at h
      · cases h
      · exfalso
        cases hin : d.inTransaction with
        | true =>
            rw [hin] at h
            exact reported_ne_ok f outcome (congrArg Prod.fst ((exec_report f _).symm.trans h))
        | false =>
            rw [hin] at h
            exact exec_bind_report_ne_ok f _ h

theorem withCursor_eq_ok {op : Talk CursorDriver α} {x : α} {entries : List WireEntry}
    (h : exec (withCursor op) (d, entries) = (.ok x, w)) :
    ∃ entries', exec op (d, entries) = (.ok x, w.1, entries') := by
  rw [exec_withCursor] at h
  cases hcursor : d.cursorFailure with
  | some f =>
      rw [hcursor] at h
      cases h
  | none =>
      rw [hcursor] at h
      rcases hr : exec op (d, entries) with ⟨outcome, d', entries'⟩
      rw [hr] at h
      dsimp only at h
      obtain ⟨houtcome, rfl⟩ := Prod.mk.inj h
      cases hclose : d'.cursorCloseFailure with
      | some f =>
          rw [hclose] at houtcome
          cases houtcome
      | none =>
          rw [hclose] at houtcome
          exact ⟨entries', congrArg (·, d', entries') houtcome⟩

/-- There is an identifier to be asked for behind the statement. -/
def isOpenQuestion (engine : Engine) (result : QueryResult) : Bool :=
  (identityQuery? engine).isSome && !result.lastInsertId.isTruthy && result.affectedRows.same (.int 1)

/-- A statement that succeeds leaves the driver behind its answer, with what is remembered of the result. -/
theorem execute_eq_ok {result : QueryResult} (h : exec (execute sql values) (d, []) = (.ok result, w)) :
    resultOf d.reply = .ok result ∧ ∃ identityPending,
      (if isOpenQuestion d.engine result then addsRows sql else pure false) = .ok identityPending ∧
        w.1 = { d.advance with lastInsertId := result.toldId?.getD d.lastInsertId, identityPending } := by
  unfold execute at h
  rw [guards_requireOpen.exec_checked] at h
  split at h
  · rw [exec_state_bind] at h
    obtain ⟨converted, w₁, hconverted, h⟩ := exec_bind_eq_ok h
    obtain rfl : (d, []) = w₁ := by
      rw [exec_lift] at hconverted
      exact congrArg Prod.snd hconverted
    obtain ⟨outcome, w₂, hstatement, h⟩ := exec_bind_eq_ok h
    obtain ⟨entries', hattempt⟩ := withCursor_eq_ok hstatement
    obtain ⟨hresult, hleft⟩ := attempt_eq_ok hattempt
    obtain ⟨told, w₃, htold, h⟩ := exec_bind_eq_ok h
    obtain ⟨rfl, rfl⟩ : outcome = .ok told ∧ w₂ = w₃ := by
      rw [exec_lift] at htold
      exact Prod.mk.inj htold
    obtain ⟨d₂, entries₂⟩ := w₂
    dsimp only at hleft
    subst hleft
    rw [exec_remember_eq] at h
    dsimp only at h
    split at h
    · rename_i pending hpending
      cases h
      exact ⟨hresult, pending, hpending, rfl⟩
    · cases h
  · cases h

/-- What a query for an identifier finds when it returns. -/
theorem lookUp_eq_ok {query : String} {cell : Value} {entries : List WireEntry}
    (h : exec (lookUp d query) (d, entries) = (.ok cell, w)) : d.lookUpOutcome = .ok cell := by
  obtain ⟨n, found, hfetch, houtcome⟩ | ⟨n, f, -, hfetch, houtcome⟩ := d.ends_fetchIdentity_cases query entries
  · have hhandled : ends (lookUp d query) (d, entries) = (.ok found, d.skip n) := ends_handled_ok hfetch
    have hcell : (exec (lookUp d query) (d, entries)).1 = .ok found := congrArg Prod.fst hhandled
    rw [h] at hcell
    exact houtcome.trans hcell.symm
  · unfold lookUp at h
    rw [Call.exec_handled] at h
    rcases hr : exec (fetchIdentity d query) (d, entries) with ⟨outcome, d', entries'⟩
    unfold ends at hfetch
    rw [hr] at h hfetch
    obtain ⟨rfl, rfl⟩ := Prod.mk.inj hfetch
    dsimp only at h
    split at h
    · cases h
    · obtain ⟨text, w', htext, -⟩ := exec_bind_eq_ok h
      rw [exec_lift] at htext
      obtain ⟨n', hgiveUp⟩ := d.ends_giveUp n query (congrArg Prod.fst htext) entries'
      unfold ends at hgiveUp
      rw [h] at hgiveUp
      exact houtcome.trans (congrArg Prod.fst hgiveUp).symm

/-- The identifier that is read back when the driver is asked for it. -/
theorem askInsertId_eq_ok {query : String} {id : Value} (hpending : d.identityPending = true)
    (hquery : identityQuery? d.engine = some query) (h : exec askInsertId (d, []) = (.ok id, w)) :
    ∃ cell, d.settled.lookUpOutcome = .ok cell ∧ identifierOf cell = .ok id := by
  rw [exec_askInsertId hpending hquery] at h
  rcases hr : exec (readIdentity query) (d.settled, []) with ⟨e | found, w'⟩
  · rw [hr] at h
    cases h
  · rw [hr] at h
    cases h
    have hopen : d.settled.isOpen = true := guards_requireOpen.isOpen_of_ok hr
    rw [exec_readIdentity hopen] at hr
    rcases hcursor : exec (withCursor (lookUp d.settled query)) (d.settled, []) with ⟨e | cell, w''⟩
    · rw [hcursor] at hr
      cases hr
    · rw [hcursor] at hr
      obtain ⟨entries', hlookUp⟩ := withCursor_eq_ok hcursor
      exact ⟨cell, lookUp_eq_ok hlookUp, congrArg Prod.fst hr⟩

/-- The identifier that the driver gives behind a statement that has added one row: the one that the cursor tells, or
else the one that is read back, or else the one that was kept before. -/
theorem askInsertId_of_execute {result : QueryResult} {id : Value} {w' : CursorDriver × List WireEntry}
    (hexecute : exec (execute sql values) (d, []) = (.ok result, w)) (hone : result.affectedRows.same (.int 1) = true)
    (hadds : addsRows sql = .ok true) (hask : exec askInsertId (w.1, []) = (.ok id, w')) :
    resultOf d.reply = .ok result ∧
      (result.lastInsertId.isTruthy = true → id = result.lastInsertId) ∧
      (result.lastInsertId.isTruthy = false →
        (identityQuery? d.engine = none → id = d.lastInsertId) ∧
        ∀ query, identityQuery? d.engine = some query →
          ∃ cell, d.advance.lookUpOutcome = .ok cell ∧ identifierOf cell = .ok id) := by
  obtain ⟨hresult, pending, hpending, hleft⟩ := execute_eq_ok hexecute
  have hidle : isOpenQuestion d.engine result = false → id = result.toldId?.getD d.lastInsertId := by
    intro hquestion
    rw [hquestion] at hpending
    cases hpending
    rw [hleft] at hask
    obtain ⟨d', hidle⟩ := exec_askInsertId_idle (d := { d.advance with
      lastInsertId := result.toldId?.getD d.lastInsertId, identityPending := false }) (.inl rfl) []
    rw [hidle] at hask
    cases hask
    rfl
  refine ⟨hresult, fun htold => ?_, fun htold => ⟨fun hquery => ?_, fun query hquery => ?_⟩⟩
  · rw [hidle (by unfold isOpenQuestion; rw [htold]; simp)]
    unfold QueryResult.toldId?
    rw [if_pos htold]
    rfl
  · rw [hidle (by unfold isOpenQuestion; rw [hquery]; rfl)]
    unfold QueryResult.toldId?
    rw [htold]
    rfl
  · have hquestion : isOpenQuestion d.engine result = true := by
      unfold isOpenQuestion
      rw [hquery, htold, hone]
      rfl
    rw [if_pos hquestion, hadds] at hpending
    cases hpending
    rw [hleft] at hask
    exact askInsertId_eq_ok (d := { d.advance with
      lastInsertId := result.toldId?.getD d.lastInsertId, identityPending := true }) rfl hquery hask

end CursorDriver

/-! ### Histories -/

namespace Driver

/-- The last identifier that the driver has come to know. -/
def keptId : Driver → Value
  | scripted d => d.lastInsertId
  | sqlite d => d.lastInsertId
  | cursor d => d.lastInsertId

def isScripted : Driver → Bool
  | scripted _ => true
  | _ => false

end Driver

namespace DriverCall

/-- The identifier that the driver comes to know in the call. -/
def told? (d : Driver) : DriverCall → Option Value
  | execute sql values => (d.execute sql values).1.toOption.bind QueryResult.toldId?
  | askInsertId => match d with
    | .cursor d => d.readBack?
    | _ => none
  | _ => none

/-- The identifier that the driver has come to know last in a number of calls. -/
def latest? (d : Driver) : List DriverCall → Option Value
  | [] => none
  | c :: rest => (latest? (c.after d) rest).or (c.told? d)

theorem isScripted_after (c : DriverCall) (d : Driver) : (c.after d).isScripted = d.isScripted := by
  cases c <;> cases d <;> rfl

theorem isScripted_foldl_after (cs : List DriverCall) (d : Driver) :
    (cs.foldl (fun d c => c.after d) d).isScripted = d.isScripted := by
  induction cs generalizing d with
  | nil => rfl
  | cons c cs ih => rw [List.foldl_cons, ih, isScripted_after]

theorem keptId_after_cursor (c : DriverCall) (d : CursorDriver) :
    (c.after (.cursor d)).keptId = (c.told? (.cursor d)).getD d.lastInsertId := by
  have hfinish : ∀ call : CursorDriver.Call Unit, Leaves CursorDriver.kept call →
      Leaves CursorDriver.kept (CursorDriver.finish call) := fun call h =>
    .andFinally (CursorDriver.Call.leaves_handled h CursorDriver.leaves_report) (.update fun _ _ => rfl)
  have hcommit : Leaves CursorDriver.kept (CursorDriver.finish CursorDriver.Call.commit) :=
    hfinish _ (CursorDriver.leaves_kept_signal _ _)
  have hrollback : Leaves CursorDriver.kept (CursorDriver.finish CursorDriver.Call.rollback) :=
    hfinish _ (CursorDriver.leaves_kept_signal _ _)
  cases c with
  | begin =>
      have hbegin : Leaves CursorDriver.kept CursorDriver.begin :=
        .bind CursorDriver.guards_requireOpen.leaves fun _ => .update fun _ _ => rfl
      exact hbegin (d, [])
  | commit =>
      have hwhole : Leaves CursorDriver.kept CursorDriver.commit :=
        .bind CursorDriver.guards_requireOpen.leaves fun _ => hcommit
      exact hwhole (d, [])
  | rollback =>
      have hwhole : Leaves CursorDriver.kept CursorDriver.rollback := by
        refine .bind .state fun d => ?_
        split
        · exact hrollback
        · exact .pure _
      exact hwhole (d, [])
  | close =>
      have hwhole : Leaves CursorDriver.kept CursorDriver.close := by
        refine .bind .state fun d => ?_
        split
        · exact .bind (CursorDriver.Call.leaves_bare (CursorDriver.leaves_kept_signal _ _)) fun _ =>
            .update fun _ _ => rfl
        · exact .pure _
      exact hwhole (d, [])
  | execute sql values => exact CursorDriver.tracks_execute sql values (d, [])
  | askInsertId => exact CursorDriver.kept_askInsertId d

theorem keptId_after_sqlite (c : DriverCall) (d : SqliteDriver) :
    (c.after (.sqlite d)).keptId = (c.told? (.sqlite d)).getD d.lastInsertId := by
  have hsend : ∀ sql, Leaves SqliteDriver.kept (SqliteDriver.send sql []) := fun _ =>
    SqliteDriver.leaves_kept_send _ _
  cases c with
  | begin =>
      have hbegin : Leaves SqliteDriver.kept SqliteDriver.begin :=
        .bind SqliteDriver.guards_requireOpen.leaves fun _ => .bind (hsend _) fun _ => .update fun _ _ => rfl
      exact hbegin (d, [])
  | commit =>
      have hcommit : Leaves SqliteDriver.kept SqliteDriver.commit :=
        .bind SqliteDriver.guards_requireOpen.leaves fun _ =>
          .andFinally (.bind (hsend _) fun _ => .pure _) (.update fun _ _ => rfl)
      exact hcommit (d, [])
  | rollback =>
      have hrollback : Leaves SqliteDriver.kept SqliteDriver.rollback := by
        refine .bind .state fun d => ?_
        split
        · split
          · exact .bind (hsend _) fun _ => .update fun _ _ => rfl
          · exact .update fun _ _ => rfl
        · exact .pure _
      exact hrollback (d, [])
  | close =>
      have hclose : Leaves SqliteDriver.kept SqliteDriver.close := by
        refine .bind .state fun d => ?_
        split
        · exact .bind (.emit _ fun _ _ => rfl) fun _ => .update fun _ _ => rfl
        · exact .pure _
      exact hclose (d, [])
  | execute sql values => exact SqliteDriver.tracks_execute sql values (d, [])
  | askInsertId => rfl

/-- A driver keeps the identifier that it comes to know in a call, and otherwise the one that it has kept. -/
theorem keptId_after (c : DriverCall) {d : Driver} (hd : d.isScripted = false) :
    (c.after d).keptId = (c.told? d).getD d.keptId := by
  cases d with
  | scripted d => cases hd
  | sqlite d => exact keptId_after_sqlite c d
  | cursor d => exact keptId_after_cursor c d

/-- After any calls a driver keeps the identifier that it has come to know last. -/
theorem keptId_foldl_after (cs : List DriverCall) {d : Driver} (hd : d.isScripted = false) :
    (cs.foldl (fun d c => c.after d) d).keptId = (latest? d cs).getD d.keptId := by
  induction cs generalizing d with
  | nil => rfl
  | cons c cs ih =>
      rw [List.foldl_cons, ih ((isScripted_after c d).trans hd), keptId_after c hd, latest?]
      cases latest? (c.after d) cs with
      | none => rfl
      | some id => rfl

end DriverCall

end SqlBuilder
