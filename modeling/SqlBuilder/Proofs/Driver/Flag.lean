import SqlBuilder.Driver
import SqlBuilder.Proofs.Driver.Talk

/-!
The flag of a driver, which tells whether it believes that a transaction is open. Statements leave it alone. A
transaction that is begun with success sets it, and an end that succeeds clears it; what becomes of it when an end
fails is up to the driver.
-/

namespace SqlBuilder

variable {α : Type}

namespace ScriptedDriver

open Talk

/-- Whether the driver believes that a transaction is open. -/
abbrev flag (w : ScriptedDriver × List WireEntry) : Bool := w.1.inTransaction

/-- The flag of the driver, what it reports about rollbacks, how many commits have been sent, and the engine. -/
abbrev marks (w : ScriptedDriver × List WireEntry) : Bool × Option DriverFault × Nat × Engine :=
  (w.1.inTransaction, w.1.rollbackFailure, commits w, w.1.engine)

theorem leaves_execute (sql : Value) (values : List Value) : Leaves marks (execute sql values) := by
  refine .bind (.emit _ fun s entries => ?_) fun _ => .bind ?_ fun (reply, isUsedUp) => ?_
  · exact congrArg (fun n => (s.inTransaction, s.rollbackFailure, n, s.engine)) (commits_append rfl s entries)
  · refine .bind .state fun d => ?_
    split
    · exact .pure _
    · exact .bind (.update fun _ _ => rfl) fun _ => .pure _
  · dsimp only
    split
    · exact .throw_bind _ _
    · split
      · exact .pure _
      · refine .bind (.lift _) fun _ => ?_
        split
        · exact .pure _
        · refine .bind (.lift _) fun _ => ?_
          split
          · exact .bind (.update fun _ _ => rfl) fun _ => .pure _
          · exact .pure _

/-- A call that succeeds sets the flag. -/
theorem mark_ok {entry : WireEntry} {failure : Option DriverFault} {b : Bool}
    {w w' : ScriptedDriver × List WireEntry} {x : Unit} (h : exec (mark entry failure b) w = (.ok x, w')) :
    w'.1.inTransaction = b := by
  cases failure with
  | some report => cases h
  | none =>
      cases h
      rfl

theorem sets_begin : Sets flag true begin := .bind fun _ _ _ _ => mark_ok

theorem sets_commit : Sets flag false commit := .bind fun _ _ _ _ => mark_ok

theorem sets_rollback : Sets flag false rollback := .bind fun _ _ _ _ => mark_ok

end ScriptedDriver

namespace SqliteReply

variable {reply : SqliteReply}

theorem busyBehind_begin (h : reply.failure = none) (isBusy : Bool) :
    reply.busyBehind (.text "BEGIN") isBusy = true := by
  rw [busyBehind, h]
  rfl

theorem busyBehind_end {sql : Value} (hsql : sql = .text "COMMIT" ∨ sql = .text "ROLLBACK")
    (h : reply.failure = none) (isBusy : Bool) : reply.busyBehind sql isBusy = false := by
  rw [busyBehind, h]
  obtain rfl | rfl := hsql
  · rfl
  · rfl

end SqliteReply

namespace SqliteDriver

open Talk

/-- Whether the connection is there, whether the driver believes that a transaction is open, and how many commits have
been sent apart from statements. -/
abbrev marks (w : SqliteDriver × List WireEntry) : Bool × Bool × Nat :=
  (w.1.isOpen, w.1.inTransaction, commits w)

theorem guards_requireOpen :
    Guards (·.isOpen) (.closed "Not connected to database. Call connect() first.") requireOpen := by
  intro w
  unfold requireOpen
  rw [exec_state_bind]
  split
  · rfl
  · rfl

theorem leaves_send (sql : Value) (values : List Value) : Leaves marks (send sql values) := by
  refine .bind (.emit _ fun s entries => ?_) fun _ => .bind .state fun d => .bind (.update fun _ _ => rfl) fun _ => ?_
  · exact congrArg (fun n => (s.isOpen, s.inTransaction, n)) (commits_append rfl s entries)
  · split
    · exact .throw _
    · exact .pure _

theorem leaves_execute (sql : Value) (values : List Value) : Leaves marks (execute sql values) := by
  refine .bind guards_requireOpen.leaves fun _ => .bind (leaves_send _ _) fun reply => ?_
  dsimp only
  split
  · split
    · exact .bind (.update fun _ _ => rfl) fun _ => .pure _
    · exact .pure _
  · exact .throw _

theorem exec_send (sql : Value) (values : List Value) (d : SqliteDriver) (entries : List WireEntry) :
    exec (send sql values) (d, entries) = ((match d.reply.failure with
      | some f => .error f.toFault
      | none => .ok d.reply), d.sent sql, entries ++ [.prepared sql values]) := by
  simp only [send, exec_bind, Talk.emit, Talk.state, Talk.update, exec_modify, exec_get, exec_pure]
  cases d.reply.failure with
  | some f => rfl
  | none => rfl

/-- What is sent with success as the end of a transaction ends the one of the connection. -/
theorem send_end {sql : Value} (hsql : sql = .text "COMMIT" ∨ sql = .text "ROLLBACK")
    {w w' : SqliteDriver × List WireEntry} {reply : SqliteReply}
    (h : exec (send sql []) w = (.ok reply, w')) : w'.1.connectionBusy = false := by
  rw [exec_send] at h
  cases hfailure : w.1.reply.failure with
  | some f =>
      rw [hfailure] at h
      cases h
  | none =>
      rw [hfailure] at h
      cases h
      exact SqliteReply.busyBehind_end hsql hfailure _

theorem connected_begin : Connected (·.isOpen) begin :=
  guards_requireOpen.connected fun _ => .bind ((leaves_send _ _).map Prod.fst) fun _ => .update fun _ _ => rfl

theorem connected_commit : Connected (·.isOpen) commit :=
  guards_requireOpen.connected fun _ =>
    .andFinally (.bind ((leaves_send _ _).map Prod.fst) fun _ => .pure _) (.update fun _ _ => rfl)

theorem sets_begin : Sets (·.1.inTransaction) true begin :=
  .bind fun _ => .bind fun _ => .update fun _ _ => rfl

/-- The flag of a driver that has committed is the one of the connection. -/
theorem sets_commit : Sets (·.1.inTransaction) false commit := by
  refine .bind fun _ w x w' h => ?_
  rw [exec_andFinally_update, exec_bind] at h
  rcases hr : exec (send (.text "COMMIT") []) w with ⟨outcome, w''⟩
  rw [hr] at h
  cases outcome with
  | ok reply =>
      cases h
      exact send_end (.inl rfl) hr
  | error e => cases h

theorem exec_rollback (w : SqliteDriver × List WireEntry) : exec rollback w =
    if w.1.isOpen then exec (do
      if w.1.connectionBusy then
        let _ ← send (.text "ROLLBACK") []
      Talk.update fun d => { d with inTransaction := false } : Talk SqliteDriver Unit) w
    else (.ok (), w) := by
  unfold rollback
  rw [exec_state_bind]
  split
  · rfl
  · rfl

theorem connected_rollback : Connected (·.isOpen) rollback where
  leaves := by
    refine .bind .state fun d => ?_
    have hend : Leaves (·.1.isOpen) (Talk.update fun d : SqliteDriver => { d with inTransaction := false }) :=
      .update fun _ _ => rfl
    split
    · dsimp only
      split
      · exact .bind ((leaves_send _ _).map Prod.fst) fun _ => hend
      · exact hend
    · exact .pure _
  idle w h := by rw [exec_rollback, if_neg (Bool.eq_false_iff.mp h)]

/-- A rollback that succeeds clears the flag, or there is no connection and it was clear. -/
theorem rollback_ok (w : SqliteDriver × List WireEntry) (hw : w.1.inTransaction → w.1.isOpen)
    {w' : SqliteDriver × List WireEntry} {x : Unit} (h : exec rollback w = (.ok x, w')) :
    w'.1.inTransaction = false := by
  rw [exec_rollback] at h
  have hend : Sets (·.1.inTransaction) false
      (Talk.update fun d : SqliteDriver => { d with inTransaction := false }) := .update fun _ _ => rfl
  by_cases hopen : w.1.isOpen = true
  · rw [if_pos hopen] at h
    by_cases hbusy : w.1.connectionBusy = true
    · rw [if_pos hbusy] at h
      exact Sets.bind (fun _ => hend) w x w' h
    · rw [if_neg hbusy] at h
      exact hend w x w' h
  · rw [if_neg hopen] at h
    cases h
    exact Bool.eq_false_iff.mpr fun hflag => hopen (hw hflag)

theorem exec_close (w : SqliteDriver × List WireEntry) : exec close w =
    (.ok (), if w.1.isOpen then ({ w.1 with isOpen := false, inTransaction := false }, w.2 ++ [.close]) else w) := by
  unfold close
  rw [exec_state_bind]
  split
  · rfl
  · rfl

end SqliteDriver

namespace CursorDriver

open Talk

/-- Whether the connection is there, and whether the driver believes that a transaction is open. -/
abbrev flags (w : CursorDriver × List WireEntry) : Bool × Bool := (w.1.isOpen, w.1.inTransaction)

/-- Statements on a cursor and warnings do not show in the part, and of the driver it depends on the flags and on what
never changes alone. -/
structure Coarse {γ : Type} (part : CursorDriver × List WireEntry → γ) : Prop where
  cursor : ∀ (d : CursorDriver) (entries : List WireEntry) (sql : Value) (values : Option Parameters),
    part (d, entries ++ [.cursor sql values]) = part (d, entries)
  warn : ∀ (d : CursorDriver) (entries : List WireEntry) (text : String),
    part (d, entries ++ [.warn text]) = part (d, entries)
  update : ∀ (d d' : CursorDriver) (entries : List WireEntry), d'.isOpen = d.isOpen →
    d'.inTransaction = d.inTransaction → d'.engine = d.engine → d'.catchesAll = d.catchesAll →
    part (d', entries) = part (d, entries)

/-- Statements on a cursor and warnings do not show in the part, and neither do the answers that are still to come. -/
structure Steady {γ : Type} (part : CursorDriver × List WireEntry → γ) : Prop where
  cursor : ∀ (d : CursorDriver) (entries : List WireEntry) (sql : Value) (values : Option Parameters),
    part (d, entries ++ [.cursor sql values]) = part (d, entries)
  warn : ∀ (d : CursorDriver) (entries : List WireEntry) (text : String),
    part (d, entries ++ [.warn text]) = part (d, entries)
  advance : ∀ (d : CursorDriver) (entries : List WireEntry),
    part ({ d with replies := d.replies.tail }, entries) = part (d, entries)

theorem Coarse.steady {γ : Type} {part : CursorDriver × List WireEntry → γ} (h : Coarse part) : Steady part where
  cursor := h.cursor
  warn := h.warn
  advance d entries := h.update d _ entries rfl rfl rfl rfl

theorem coarse_flags : Coarse flags where
  cursor _ _ _ _ := rfl
  warn _ _ _ := rfl
  update _ _ _ hopen hflag _ _ := Prod.ext hopen hflag

/-- The number of calls of some other kind. -/
theorem coarse_countP {kind : WireEntry → Bool} (hcursor : ∀ sql values, kind (.cursor sql values) = false)
    (hwarn : ∀ text, kind (.warn text) = false) :
    Coarse fun w : CursorDriver × List WireEntry => w.2.countP kind where
  cursor d entries sql values := by simp [hcursor]
  warn d entries text := by simp [hwarn]
  update _ _ _ _ _ _ _ := rfl

theorem coarse_commits : Coarse commits := coarse_countP (fun _ _ => rfl) fun _ => rfl

theorem coarse_engine : Coarse fun w => w.1.engine where
  cursor _ _ _ _ := rfl
  warn _ _ _ := rfl
  update _ _ _ _ _ h _ := h

theorem coarse_catchesAll : Coarse fun w => w.1.catchesAll where
  cursor _ _ _ _ := rfl
  warn _ _ _ := rfl
  update _ _ _ _ _ _ h := h

theorem guards_requireOpen : Guards (·.isOpen) (.closed "Connection is closed.") requireOpen := by
  intro w
  unfold requireOpen
  rw [exec_state_bind]
  split
  · rfl
  · rfl

section Part

variable {γ : Type} {part : CursorDriver × List WireEntry → γ}

namespace Call

/-- The outcome of a call of the connection is looked at. -/
theorem leaves_run {call : Call α} (h : Leaves part call) :
    Leaves part (liftM (ExceptT.run call : StateM _ _) : Talk CursorDriver (Except ModuleFailure α)) := h

theorem leaves_bare {call : Call α} (h : Leaves part call) : Leaves part call.bare := by
  refine .bind (leaves_run h) fun outcome => ?_
  cases outcome with
  | ok x => exact .pure x
  | error failure => exact .throw _

theorem leaves_handled {call : Call α} {handler : ModuleFailure → Talk CursorDriver α} (h : Leaves part call)
    (hhandler : ∀ failure, Leaves part (handler failure)) : Leaves part (call.handled handler) := by
  refine .bind (leaves_run h) fun outcome => ?_
  cases outcome with
  | ok x => exact .pure x
  | error failure =>
      refine .bind .state fun _ => ?_
      split
      · exact .throw _
      · exact hhandler failure

theorem leaves_execute (hpart : Steady part) (sql : Value) (values : Option Parameters) :
    Leaves part (Call.execute sql values) := by
  refine .bind (.changing fun w => hpart.cursor w.1 w.2 _ _) fun _ => .bind .get fun _ => ?_
  refine .bind (.changing fun w => hpart.advance w.1 w.2) fun _ => ?_
  dsimp only
  split
  · exact .throw_bind _ _
  · exact .pure _

theorem leaves_signal_of {entry : WireEntry} (failure : CursorDriver → Option ModuleFailure)
    (h : ∀ d entries, part (d, entries ++ [entry]) = part (d, entries)) : Leaves part (signal entry failure) := by
  refine .bind (.changing fun w => h w.1 w.2) fun _ => .bind .get fun _ => ?_
  split
  · exact .throw _
  · exact .pure _

theorem leaves_openCursor : Leaves part openCursor := by
  refine .bind .get fun _ => ?_
  split
  · exact .throw _
  · exact .pure _

theorem leaves_signal (entry : WireEntry) (failure : CursorDriver → Option ModuleFailure) :
    Leaves flags (signal entry failure) := leaves_signal_of failure fun _ _ => rfl

end Call

theorem leaves_report (failure : ModuleFailure) : Leaves part (report failure : Talk CursorDriver α) :=
  .bind (.lift _) fun _ => .throw _

theorem leaves_withCursor (hclose : Leaves part Call.closeCursor) {op : Talk CursorDriver α} (h : Leaves part op) :
    Leaves part (withCursor op) :=
  .bind (Call.leaves_bare Call.leaves_openCursor) fun _ => .andFinally h (Call.leaves_bare hclose)

theorem leaves_remember (hpart : Coarse part) (engine : Engine) (sql : Value) (result : QueryResult) :
    Leaves part (remember engine sql result) := by
  have hend : ∀ identityPending : Bool, Leaves part (do
      Talk.update fun d => { d with identityPending }
      pure result : Talk CursorDriver QueryResult) :=
    fun _ => .bind (.update fun d entries => hpart.update d _ entries rfl rfl rfl rfl) fun _ => .pure _
  have hasked : Leaves part (do
      let identityPending ← if (identityQuery? engine).isSome && !result.lastInsertId.isTruthy &&
        result.affectedRows.same (.int 1) then addsRows sql else pure false
      Talk.update fun d => { d with identityPending }
      pure result : Talk CursorDriver QueryResult) := by
    dsimp only
    split
    · exact .bind (.lift _) hend
    · exact .bind (.pure _) hend
  unfold remember
  dsimp only
  split
  · exact .bind (.update fun d entries => hpart.update d _ entries rfl rfl rfl rfl) fun _ => hasked
  · exact hasked

variable {w : CursorDriver × List WireEntry}

/-- What follows the check for the connection goes by the driver as it is. -/
theorem part_connected {k : CursorDriver → Talk CursorDriver α} (hk : Leaves part (k w.1)) :
    part (exec (requireOpen >>= fun _ => Talk.state >>= k) w).2 = part w := by
  rw [guards_requireOpen.exec_checked, exec_state_bind]
  split
  · exact hk w
  · rfl

section Steady

variable (hpart : Steady part)
  (hends : w.1.inTransaction = false → Leaves part Call.commit ∧ Leaves part Call.rollback)

include hpart hends

theorem leaves_attempt (sql : Value) (values : Parameters) : Leaves part (attempt w.1 sql values) := by
  refine Call.leaves_handled (.bind (Call.leaves_execute hpart _ _) fun reply => ?_) fun failure => ?_
  · dsimp only
    split
    · rename_i hcommit
      rw [Bool.and_eq_true, Bool.not_eq_true'] at hcommit
      exact .bind (hends hcommit.2).1 fun _ => .pure _
    · exact .pure _
  · dsimp only
    split
    · exact leaves_report _
    · rename_i hout
      exact .bind (Call.leaves_bare (hends (Bool.eq_false_iff.mpr hout)).2) fun _ => leaves_report _

theorem leaves_fetchIdentity (query : String) : Leaves part (fetchIdentity w.1 query) := by
  have hexecute : ∀ sql values, Leaves part (Call.execute sql values) := Call.leaves_execute hpart
  unfold fetchIdentity
  dsimp only
  split
  · refine .bind (hexecute _ _) fun _ => .bind (hexecute _ _) fun _ => ?_
    exact .bind (hexecute _ _) fun _ => .pure _
  · refine .bind (hexecute _ _) fun _ => ?_
    split
    · rename_i hout
      rw [Bool.not_eq_true'] at hout
      exact .bind (hends hout).1 fun _ => .pure _
    · exact .pure _

theorem leaves_recover : Leaves part (recover w.1) := by
  unfold recover
  split
  · exact .bind (Call.leaves_bare (Call.leaves_execute hpart _ _)) fun _ => .pure _
  · split
    · rename_i hout
      rw [Bool.not_eq_true'] at hout
      exact Call.leaves_bare (hends hout).2
    · exact .pure _

theorem leaves_lookUp (query : String) : Leaves part (lookUp w.1 query) :=
  Call.leaves_handled (leaves_fetchIdentity hpart hends query) fun _ => .bind (.lift _) fun _ =>
    .bind (.emit _ fun d entries => hpart.warn d entries _) fun _ => .bind (leaves_recover hpart hends) fun _ =>
      .pure _

theorem part_readIdentity (hclose : Leaves part Call.closeCursor) (query : String) :
    part (exec (readIdentity query) w).2 = part w :=
  part_connected (.bind (leaves_withCursor hclose (leaves_lookUp hpart hends query)) fun _ => .lift _)

end Steady

variable (hpart : Coarse part)
  (hends : w.1.inTransaction = false → Leaves part Call.commit ∧ Leaves part Call.rollback)

include hpart hends

/-- Only outside a transaction a statement is followed by a commit or a rollback of the connection. -/
theorem part_execute (hclose : Leaves part Call.closeCursor) (sql : Value) (values : List Value) :
    part (exec (execute sql values) w).2 = part w := by
  exact part_connected (.bind (.lift _) fun converted =>
    .bind (leaves_withCursor hclose (leaves_attempt hpart.steady hends _ _)) fun outcome =>
      .bind (.lift _) fun result => leaves_remember hpart _ sql result)

theorem part_askInsertId (hclose : Leaves part Call.closeCursor) : part (exec askInsertId w).2 = part w := by
  have hlast : Leaves part (do pure (← Talk.state).lastInsertId : Talk CursorDriver Value) :=
    .bind .state fun _ => .pure _
  have hclear : part ({ w.1 with identityPending := false }, w.2) = part w := hpart.update w.1 _ w.2 rfl rfl rfl rfl
  change part (exec (if w.1.identityPending then _ else _) w).2 = _
  split
  · -- from here on the driver is the one that has nothing to ask for any more
    rw [← hclear]
    change part (exec _ ({ w.1 with identityPending := false }, w.2)).2 = _
    split
    · have hread := part_readIdentity (w := ({ w.1 with identityPending := false }, w.2)) hpart.steady hends hclose
      refine Leaves.bind_at (hread _) fun id => .bind (.update fun d entries => ?_) fun _ => hlast
      exact hpart.update d _ entries rfl rfl rfl rfl
    · exact hlast _
  · exact hlast w

end Part

theorem leaves_execute (sql : Value) (values : List Value) : Leaves flags (execute sql values) :=
  fun _ => part_execute coarse_flags (fun _ => ⟨Call.leaves_signal _ _, Call.leaves_signal _ _⟩)
    (Call.leaves_signal _ _) sql values

theorem leaves_askInsertId : Leaves flags askInsertId :=
  fun _ => part_askInsertId coarse_flags (fun _ => ⟨Call.leaves_signal _ _, Call.leaves_signal _ _⟩)
    (Call.leaves_signal _ _)

theorem connected_begin : Connected (·.isOpen) begin := guards_requireOpen.connected fun _ => .update fun _ _ => rfl

theorem sets_begin : Sets (·.1.inTransaction) true begin := .bind fun _ => .update fun _ _ => rfl

theorem leaves_isOpen_finish {call : Call Unit} (h : Leaves flags call) : Leaves (·.1.isOpen) (finish call) :=
  .andFinally ((Call.leaves_handled h leaves_report).map Prod.fst) (.update fun _ _ => rfl)

/-- The flag is cleared in any case. -/
theorem finish_clears (call : Call Unit) (w : CursorDriver × List WireEntry) :
    (exec (finish call) w).2.1.inTransaction = false := by
  unfold finish
  rw [exec_andFinally_update]

theorem connected_commit : Connected (·.isOpen) commit :=
  guards_requireOpen.connected fun _ => leaves_isOpen_finish (Call.leaves_signal _ _)

theorem sets_commit : Sets (·.1.inTransaction) false commit := by
  refine .bind fun _ w x w' h => ?_
  rw [← finish_clears Call.commit w, h]

theorem exec_rollback (w : CursorDriver × List WireEntry) :
    exec rollback w = if w.1.isOpen then exec (finish Call.rollback) w else (.ok (), w) := by
  unfold rollback
  rw [exec_state_bind]
  split
  · rfl
  · rfl

theorem connected_rollback : Connected (·.isOpen) rollback where
  leaves := by
    refine .bind .state fun d => ?_
    split
    · exact leaves_isOpen_finish (Call.leaves_signal _ _)
    · exact .pure _
  idle w h := by rw [exec_rollback, if_neg (Bool.eq_false_iff.mp h)]

/-- A rollback clears the flag, or there is no connection and it was clear. -/
theorem rollback_clears (w : CursorDriver × List WireEntry) (hw : w.1.inTransaction → w.1.isOpen) :
    (exec rollback w).2.1.inTransaction = false := by
  rw [exec_rollback]
  by_cases hopen : w.1.isOpen = true
  · rw [if_pos hopen]
    exact finish_clears _ _
  · rw [if_neg hopen]
    exact Bool.eq_false_iff.mpr fun hflag => hopen (hw hflag)

/-- A failure to close leaves everything as it is, but for the calls that have been made. -/
theorem exec_close_marks (w : CursorDriver × List WireEntry) :
    flags (exec close w).2 = flags w ∨ flags (exec close w).2 = (false, false) := by
  unfold close
  rw [exec_state_bind]
  by_cases h : w.1.isOpen = true
  · rw [if_pos h, exec_bind]
    have hclose : flags (exec Call.close.bare w).2 = flags w := Call.leaves_bare (Call.leaves_signal _ _) w
    rcases hr : exec (Call.close.bare) w with ⟨outcome, w'⟩
    rw [hr] at hclose
    cases outcome with
    | ok x => exact .inr rfl
    | error e => exact .inl hclose
  · rw [if_neg h]
    exact .inl rfl

end CursorDriver

end SqlBuilder
