import SqlBuilder.Driver.Wire

/-!
What an operation of a driver does to its state: its outcome and what it leaves, and the parts of the state that it
leaves alone or sets.
-/

namespace SqlBuilder

variable {α β γ ε ω σ : Type}

def WireEntry.isCommit : WireEntry → Bool
  | commit => true
  | _ => false

namespace Talk

def exec (op : ExceptT ε (StateM ω) α) (w : ω) : Except ε α × ω := (ExceptT.run op).run w

variable (w : ω)

@[simp] theorem exec_pure (x : α) : exec (pure x : ExceptT ε (StateM ω) α) w = (.ok x, w) := rfl

@[simp] theorem exec_throw (e : ε) : exec (throw e : ExceptT ε (StateM ω) α) w = (.error e, w) := rfl

@[simp] theorem exec_get : exec (get : ExceptT ε (StateM ω) ω) w = (.ok w, w) := rfl

@[simp] theorem exec_modify (f : ω → ω) : exec (modify f : ExceptT ε (StateM ω) PUnit) w = (.ok ⟨⟩, f w) := rfl

theorem exec_bind (op : ExceptT ε (StateM ω) α) (k : α → ExceptT ε (StateM ω) β) : exec (op >>= k) w =
    match exec op w with
    | (.ok x, w') => exec (k x) w'
    | (.error e, w') => (.error e, w') := by
  simp only [exec, ExceptT.run_bind, StateT.run_bind]
  rcases ((ExceptT.run op).run w : Except ε α × ω) with ⟨outcome, w'⟩
  cases outcome with
  | ok x => rfl
  | error e => rfl

variable {w} in
/-- A sequence succeeds if its parts do, one after the other. -/
theorem exec_bind_eq_ok {op : ExceptT ε (StateM ω) α} {k : α → ExceptT ε (StateM ω) β} {w'' : ω} {y : β}
    (h : exec (op >>= k) w = (.ok y, w'')) : ∃ x w', exec op w = (.ok x, w') ∧ exec (k x) w' = (.ok y, w'') := by
  rw [exec_bind] at h
  rcases hr : exec op w with ⟨outcome, w'⟩
  rw [hr] at h
  cases outcome with
  | ok x => exact ⟨x, w', rfl, h⟩
  | error e => cases h

theorem exec_tryCatch (op : ExceptT ε (StateM ω) α) (handler : ε → ExceptT ε (StateM ω) α) :
    exec (tryCatch op handler) w =
      match exec op w with
      | (.ok x, w') => (.ok x, w')
      | (.error e, w') => exec (handler e) w' := by
  change StateT.run ((ExceptT.tryCatch op handler).run) w = _
  unfold ExceptT.tryCatch
  rw [ExceptT.run_mk]
  change StateT.run (op.run >>= _) w = _
  rw [StateT.run_bind]
  simp only [exec]
  rcases ((ExceptT.run op).run w : Except ε α × ω) with ⟨outcome, w'⟩
  cases outcome with
  | ok x => rfl
  | error e => rfl

/-- What follows a look at the state goes by the state as it is. -/
theorem exec_state_bind (k : σ → Talk σ α) (w : σ × List WireEntry) :
    exec (Talk.state >>= k) w = exec (k w.1) w := rfl

/-- What is done at last is a change of the state, which the outcome does not depend on. -/
theorem exec_andFinally_update (op : Talk σ α) (f : σ → σ) (w : σ × List WireEntry) :
    exec (op.andFinally (update f)) w = ((exec op w).1, (f (exec op w).2.1, (exec op w).2.2)) := by
  unfold andFinally
  rw [exec_bind, exec_tryCatch, exec_bind]
  rcases exec op w with ⟨outcome, w'⟩
  cases outcome with
  | ok x => rfl
  | error e => rfl

/-- The operation leaves that part of the state as it is, whether it succeeds or fails. -/
def Leaves (part : ω → γ) (op : ExceptT ε (StateM ω) α) : Prop := ∀ w, part (exec op w).2 = part w

namespace Leaves

variable {part : ω → γ}

theorem pure (x : α) : Leaves part (Pure.pure x : ExceptT ε (StateM ω) α) := fun _ => rfl

theorem throw (e : ε) : Leaves part (MonadExcept.throw e : ExceptT ε (StateM ω) α) := fun _ => rfl

/-- Nothing follows a failure. -/
theorem throw_bind (e : ε) (k : α → ExceptT ε (StateM ω) β) : Leaves part (MonadExcept.throw e >>= k) := fun _ => rfl

theorem get : Leaves part (MonadState.get : ExceptT ε (StateM ω) ω) := fun _ => rfl

theorem changing {f : ω → ω} (h : ∀ w, part (f w) = part w) :
    Leaves part (modify f : ExceptT ε (StateM ω) PUnit) := h

/-- The first operation is looked at in one state alone. -/
theorem bind_at {op : ExceptT ε (StateM ω) α} {k : α → ExceptT ε (StateM ω) β} {w : ω}
    (hop : part (exec op w).2 = part w) (hk : ∀ x, Leaves part (k x)) : part (exec (op >>= k) w).2 = part w := by
  rw [exec_bind]
  rcases hr : exec op w with ⟨outcome, w'⟩
  rw [hr] at hop
  cases outcome with
  | ok x => exact (hk x w').trans hop
  | error e => exact hop

theorem bind {op : ExceptT ε (StateM ω) α} {k : α → ExceptT ε (StateM ω) β} (hop : Leaves part op)
    (hk : ∀ x, Leaves part (k x)) : Leaves part (op >>= k) := fun w => bind_at (hop w) hk

theorem tryCatch {op : ExceptT ε (StateM ω) α} {handler : ε → ExceptT ε (StateM ω) α} (hop : Leaves part op)
    (hhandler : ∀ e, Leaves part (handler e)) : Leaves part (MonadExcept.tryCatch op handler) := by
  intro w
  have hw := hop w
  rw [exec_tryCatch]
  rcases hr : exec op w with ⟨outcome, w'⟩
  rw [hr] at hw
  cases outcome with
  | ok x => exact hw
  | error e => exact (hhandler e w').trans hw

theorem lift (outcome : Except Fault α) : Leaves part (liftM outcome : ExceptT Fault (StateM ω) α) := by
  cases outcome with
  | ok x => exact fun _ => rfl
  | error e => exact fun _ => rfl

theorem emit (entry : WireEntry) {part : σ × List WireEntry → γ}
    (h : ∀ s entries, part (s, entries ++ [entry]) = part (s, entries)) :
    Leaves part (Talk.emit entry : Talk σ Unit) := changing fun w => h w.1 w.2

theorem state {part : σ × List WireEntry → γ} : Leaves part (Talk.state : Talk σ σ) := bind get fun _ => pure _

theorem update {part : σ × List WireEntry → γ} {f : σ → σ}
    (h : ∀ s entries, part (f s, entries) = part (s, entries)) : Leaves part (Talk.update f) :=
  changing fun w => h w.1 w.2

theorem andFinally {part : σ × List WireEntry → γ} {op : Talk σ α} {final : Talk σ Unit} (hop : Leaves part op)
    (hfinal : Leaves part final) : Leaves part (op.andFinally final) := by
  refine bind (tryCatch (bind hop fun _ => pure _) fun _ => pure _) fun outcome => bind hfinal fun _ => ?_
  cases outcome with
  | ok x => exact pure x
  | error e => exact throw e

theorem mapM {f : α → ExceptT ε (StateM ω) β} (hf : ∀ x, Leaves part (f x)) (xs : List α) :
    Leaves part (xs.mapM f) := by
  induction xs with
  | nil => exact pure _
  | cons x xs ih =>
      rw [List.mapM_cons]
      exact bind (hf x) fun _ => bind ih fun _ => pure _

theorem flatMapM {f : α → ExceptT ε (StateM ω) (List β)} (hf : ∀ x, Leaves part (f x)) (xs : List α) :
    Leaves part (xs.flatMapM f) := by
  have hloop : ∀ done, Leaves part (List.flatMapM.loop f xs done) := by
    induction xs with
    | nil => exact fun _ => pure _
    | cons x xs ih => exact fun _ => bind (hf x) fun _ => ih _
  exact hloop []

/-- What is read off a part that is left is left, too. -/
theorem map {δ : Type} (f : γ → δ) {op : ExceptT ε (StateM ω) α} (h : Leaves part op) :
    Leaves (fun w => f (part w)) op := fun w => congrArg f (h w)

end Leaves

def commits (w : σ × List WireEntry) : Nat := w.2.countP WireEntry.isCommit

theorem commits_append {entry : WireEntry} (h : entry.isCommit = false) (s : σ) (entries : List WireEntry) :
    commits (s, entries ++ [entry]) = commits (s, entries) := by simp [commits, h]

/-- What leaves the number of commits as it is sends none. -/
theorem not_commit_mem {op : Talk σ α} {s : σ} (h : commits (exec op (s, [])).2 = commits (s, [])) :
    WireEntry.commit ∉ (op.run s).2.2 := by
  intro hmem
  have hpos : 0 < commits (exec op (s, [])).2 := List.countP_pos_iff.mpr ⟨_, hmem, rfl⟩
  rw [h] at hpos
  exact absurd hpos (by simp [commits])

/-- When the operation succeeds, that part of the state has the value. -/
def Sets (part : ω → γ) (v : γ) (op : ExceptT ε (StateM ω) α) : Prop :=
  ∀ w x w', exec op w = (.ok x, w') → part w' = v

namespace Sets

variable {part : ω → γ} {v : γ}

/-- The last operation settles it. -/
theorem bind {op : ExceptT ε (StateM ω) α} {k : α → ExceptT ε (StateM ω) β} (hk : ∀ x, Sets part v (k x)) :
    Sets part v (op >>= k) := by
  intro w y w' h
  rw [exec_bind] at h
  rcases hr : exec op w with ⟨outcome, w''⟩
  rw [hr] at h
  cases outcome with
  | ok x => exact hk x w'' y w' h
  | error e => cases h

theorem update {part : σ × List WireEntry → γ} {f : σ → σ} (h : ∀ s entries, part (f s, entries) = v) :
    Sets part v (Talk.update f) := by
  intro w x w' hw
  cases hw
  exact h w.1 w.2

end Sets

/-- The operation is for a connection that is there. It leaves the connection so, and does nothing without it. -/
structure Connected (isOpen : σ → Bool) (op : Talk σ α) : Prop where
  leaves : Leaves (fun w => isOpen w.1) op
  idle : ∀ w, isOpen w.1 = false → (exec op w).2 = w

/-- A flag that needs the connection still does so afterwards. -/
theorem Connected.sound {isOpen : σ → Bool} {op : Talk σ α} (h : Connected isOpen op) (flag : σ → Bool)
    (w : σ × List WireEntry) (hw : flag w.1 → isOpen w.1) (hflag : flag (exec op w).2.1) :
    isOpen (exec op w).2.1 := by
  by_cases hopen : isOpen w.1 = true
  · exact (h.leaves w).trans hopen
  · rw [h.idle w (Bool.eq_false_iff.mpr hopen)] at hflag
    exact absurd (hw hflag) hopen

/-- The operation is a check for the connection, which fails in that way without it. -/
def Guards (isOpen : σ → Bool) (fault : Fault) (check : Talk σ Unit) : Prop :=
  ∀ w, exec check w = if isOpen w.1 then (.ok (), w) else (.error fault, w)

namespace Guards

variable {isOpen : σ → Bool} {fault : Fault} {check : Talk σ Unit} (h : Guards isOpen fault check)

include h

theorem leaves {part : σ × List WireEntry → γ} : Leaves part check := by
  intro w
  rw [h w]
  split
  · rfl
  · rfl

/-- What needs the connection changes nothing without it. -/
theorem exec_checked (k : Unit → Talk σ α) (w : σ × List WireEntry) :
    exec (check >>= k) w = if isOpen w.1 then exec (k ()) w else (.error fault, w) := by
  rw [exec_bind, h w]
  by_cases hopen : isOpen w.1 = true
  · rw [if_pos hopen, if_pos hopen]
  · rw [if_neg hopen, if_neg hopen]

/-- What needs the connection succeeds only if it is there. -/
theorem isOpen_of_ok {k : Unit → Talk σ α} {w w' : σ × List WireEntry} {x : α}
    (hw : exec (check >>= k) w = (.ok x, w')) : isOpen w.1 = true := by
  rw [h.exec_checked] at hw
  by_cases hopen : isOpen w.1 = true
  · exact hopen
  · rw [if_neg hopen] at hw
    cases hw

theorem connected {k : Unit → Talk σ α} (hk : ∀ x, Leaves (fun w => isOpen w.1) (k x)) :
    Connected isOpen (check >>= k) where
  leaves := .bind h.leaves hk
  idle w hw := by rw [h.exec_checked, if_neg (Bool.eq_false_iff.mp hw)]

end Guards

end Talk

end SqlBuilder
