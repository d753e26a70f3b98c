import SqlBuilder.Session

/-!
What an operation does to a session: its outcome and the state that it leaves, whether it succeeds or fails.
-/

namespace SqlBuilder

section Arrays

variable {α : Type} {xs : Array α} {i k : Nat} {x y : α}

theorem getElem?_push_of_some (h : xs[k]? = some x) : (xs.push y)[k]? = some x := by
  obtain ⟨hk, -⟩ := Array.getElem?_eq_some_iff.1 h
  rw [Array.getElem?_push_lt hk, ← Array.getElem?_eq_getElem hk, h]

theorem getElem?_push_eq_some (h : (xs.push y)[k]? = some x) : y = x ∨ xs[k]? = some x := by
  rw [Array.getElem?_push] at h
  split at h
  · exact .inl (Option.some.inj h)
  · exact .inr h

theorem getElem?_modify_eq_some {f : α → α} (h : (xs.modify i f)[k]? = some y) :
    (i = k ∧ ∃ x, xs[k]? = some x ∧ f x = y) ∨ i ≠ k ∧ xs[k]? = some y := by
  rw [Array.getElem?_modify] at h
  split at h
  · exact .inl ⟨‹_›, Option.map_eq_some_iff.1 h⟩
  · exact .inr ⟨‹_›, h⟩

/-- Where an element was there still is one when any element has changed. -/
theorem getElem?_modify_of_some {P : α → Prop} {f : α → α} (h : xs[k]? = some x) (hkept : P x)
    (hchanged : i = k → P (f x)) : ∃ y, (xs.modify i f)[k]? = some y ∧ P y := by
  rw [Array.getElem?_modify, h]
  by_cases hi : i = k
  · rw [if_pos hi]
    exact ⟨f x, rfl, hchanged hi⟩
  · rw [if_neg hi]
    exact ⟨x, rfl, hkept⟩

end Arrays

namespace Act

variable {α β : Type}

/-- The outcome of an operation with the state that it leaves. -/
def exec (op : Act α) (env : Surroundings) (s : Session) : Except Fault α × Session := (op.run env).run.run s

variable (env : Surroundings) (s : Session)

@[simp] theorem exec_pure (x : α) : exec (pure x) env s = (.ok x, s) := rfl

@[simp] theorem exec_throw (fault : Fault) : exec (throw fault : Act α) env s = (.error fault, s) := rfl

@[simp] theorem exec_get : exec (get : Act Session) env s = (.ok s, s) := rfl

@[simp] theorem exec_set (s' : Session) : exec (set s' : Act PUnit) env s = (.ok ⟨⟩, s') := rfl

@[simp] theorem exec_modify (f : Session → Session) : exec (modify f : Act PUnit) env s = (.ok ⟨⟩, f s) := rfl

@[simp] theorem exec_read : exec (read : Act Surroundings) env s = (.ok env, s) := rfl

theorem exec_bind (op : Act α) (k : α → Act β) : exec (op >>= k) env s =
    match exec op env s with
    | (.ok x, s') => exec (k x) env s'
    | (.error fault, s') => (.error fault, s') := by
  simp only [exec, ReaderT.run_bind, ExceptT.run_bind, StateT.run_bind]
  rcases ((op.run env).run.run s : Except Fault α × Session) with ⟨outcome, s'⟩
  cases outcome with
  | ok x => rfl
  | error fault => rfl

theorem exec_tryCatch (op : Act α) (handler : Fault → Act α) : exec (tryCatch op handler) env s =
    match exec op env s with
    | (.ok x, s') => (.ok x, s')
    | (.error fault, s') => exec (handler fault) env s' := by
  change StateT.run ((ExceptT.tryCatch (op.run env) fun fault => (handler fault).run env : Run α).run) s = _
  unfold ExceptT.tryCatch
  rw [ExceptT.run_mk]
  change StateT.run ((op.run env).run >>= _) s = _
  rw [StateT.run_bind]
  simp only [exec]
  rcases ((op.run env).run.run s : Except Fault α × Session) with ⟨outcome, s'⟩
  cases outcome with
  | ok x => rfl
  | error fault => rfl

variable {env s}

theorem exec_bind_ok {op : Act α} {k : α → Act β} {x : α} {s' : Session} (h : exec op env s = (.ok x, s')) :
    exec (op >>= k) env s = exec (k x) env s' := by
  rw [exec_bind, h]

theorem exec_bind_error {op : Act α} {k : α → Act β} {fault : Fault} {s' : Session}
    (h : exec op env s = (.error fault, s')) : exec (op >>= k) env s = (.error fault, s') := by
  rw [exec_bind, h]

/-- A sequence succeeds if its parts do, one after the other. -/
theorem exec_bind_eq_ok {op : Act α} {k : α → Act β} {y : β} {u : Session}
    (h : exec (op >>= k) env s = (.ok y, u)) :
    ∃ x t, exec op env s = (.ok x, t) ∧ exec (k x) env t = (.ok y, u) := by
  rw [exec_bind] at h
  rcases hr : exec op env s with ⟨outcome, t⟩
  rw [hr] at h
  cases outcome with
  | ok x => exact ⟨x, t, rfl, h⟩
  | error fault => cases h

@[simp] theorem exec_lift (outcome : Except Fault α) : exec (lift outcome) env s = (outcome, s) := by
  cases outcome with
  | ok x => rfl
  | error fault => rfl

@[simp] theorem exec_dialect : exec dialect env s = (.ok (.ofEngine s.driver.engine), s) := rfl

theorem exec_builder (id : Nat) : exec (builder id) env s =
    (match s.builders[id]? with
      | some b => .ok b
      | none => .error .missingMember, s) := by
  simp only [builder, exec_bind, exec_get]
  cases s.builders[id]? with
  | none => rfl
  | some b => rfl

theorem exec_builder_of_some {id : Nat} {b : Builder} (hb : s.builders[id]? = some b) :
    exec (builder id) env s = (.ok b, s) := by
  rw [exec_builder, hb]

theorem exec_builder_of_none {id : Nat} (hb : s.builders[id]? = none) :
    exec (builder id) env s = (.error .missingMember, s) := by
  rw [exec_builder, hb]

theorem exec_builderValue {id : Nat} {b : Builder} (hb : s.builders[id]? = some b) :
    exec (builderValue id) env s = (.ok (.builder b.role.kind id), s) := exec_bind_ok (exec_builder_of_some hb)

theorem exec_draftOf {id : Nat} {b : Builder} (hb : s.builders[id]? = some b) :
    exec (draftOf id) env s = (.ok b.draft, s) := exec_bind_ok (exec_builder_of_some hb)

theorem exec_draftOf_of_none {id : Nat} (hb : s.builders[id]? = none) :
    exec (draftOf id) env s = (.error .missingMember, s) := exec_bind_error (exec_builder_of_none hb)

/-- An operation with a certain outcome succeeds. -/
theorem exec_eq_ok (op : Act α) (env : Surroundings) (s : Session) (look : α → β) {y : β}
    (h : (exec op env s).1.toOption.map look = some y) :
    ∃ v, exec op env s = (.ok v, (exec op env s).2) ∧ look v = y := by
  rcases hr : exec op env s with ⟨outcome, t⟩
  rw [hr] at h
  cases outcome with
  | error fault => cases h
  | ok v => exact ⟨v, rfl, Option.some.inj h⟩

/-- An operation whose outcome is looked at never fails. -/
theorem exec_observed (op : Act α) : exec (tryCatch (do pure (Except.ok (← op))) fun fault => pure (.error fault))
    env s = (.ok (exec op env s).1, (exec op env s).2) := by
  rw [exec_tryCatch, exec_bind]
  rcases exec op env s with ⟨outcome, t⟩
  cases outcome with
  | ok x => rfl
  | error fault => rfl

theorem exec_draft {id : Nat} {b : Builder} (h : s.builders[id]? = some b) :
    exec (draft id) env s = (.ok (s.drafts[b.draft]?.getD {}), s) := exec_bind_ok (exec_draftOf h)

theorem exec_draft_of_none {id : Nat} (h : s.builders[id]? = none) :
    exec (draft id) env s = (.error .missingMember, s) := exec_bind_error (exec_draftOf_of_none h)

theorem exec_modifyDraft {id : Nat} {b : Builder} (h : s.builders[id]? = some b) (f : Draft → Draft) :
    exec (modifyDraft id f) env s = (.ok ⟨⟩, { s with drafts := s.drafts.modify b.draft f }) :=
  exec_bind_ok (exec_draftOf h)

theorem exec_builder_eq_ok {id : Nat} {b : Builder} {t : Session} (h : exec (builder id) env s = (.ok b, t)) :
    s.builders[id]? = some b ∧ t = s := by
  rw [exec_builder] at h
  injection h with hb ht
  split at hb
  · rename_i b' hb'
    injection hb with hb
    exact ⟨hb ▸ hb', ht.symm⟩
  · cases hb

theorem exec_driver (operation : Driver → Except Fault α × Driver × List WireEntry) :
    exec (driver operation) env s = ((operation s.driver).1,
      { s with
        driver := (operation s.driver).2.1
        journal := s.journal ++ (operation s.driver).2.2.map Entry.wire }) := by
  simp only [driver, exec_bind, exec_get, exec_set, exec_lift]

end Act

end SqlBuilder
