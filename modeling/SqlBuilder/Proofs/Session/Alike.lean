import SqlBuilder.Proofs.Session.Run

/-!
Operations with one outcome: whichever of some states they find, the same comes of them, and they do not leave these
states. Two operations are alike if the same comes of both.
-/

namespace SqlBuilder

open Act

variable {α β γ : Type} {P Q : Session → Prop} {env : Surroundings}

namespace Act

/-- In all of these states the operation has that outcome, and it does not leave them. -/
def Settled (P : Session → Prop) (env : Surroundings) (op : Act α) (outcome : Except Fault α) : Prop :=
  ∀ s, P s → ∃ t, op.exec env s = (outcome, t) ∧ P t

namespace Settled

theorem pure (x : α) : Settled P env (Pure.pure x) (.ok x) := fun s hs => ⟨s, rfl, hs⟩

theorem lift (outcome : Except Fault α) : Settled P env (Act.lift outcome) outcome :=
  fun s hs => ⟨s, exec_lift _, hs⟩

theorem bind {op : Act α} {k : α → Act β} {x : α} {outcome : Except Fault β} (hop : Settled P env op (.ok x))
    (hk : Settled P env (k x) outcome) : Settled P env (op >>= k) outcome := by
  intro s hs
  obtain ⟨t, ht, hPt⟩ := hop s hs
  obtain ⟨u, hu, hPu⟩ := hk t hPt
  exact ⟨u, (exec_bind_ok ht).trans hu, hPu⟩

theorem bind_error {op : Act α} {k : α → Act β} {fault : Fault} (hop : Settled P env op (.error fault)) :
    Settled P env (op >>= k) (.error fault) := by
  intro s hs
  obtain ⟨t, ht, hPt⟩ := hop s hs
  exact ⟨t, exec_bind_error ht, hPt⟩

theorem draftAt {number : Nat} {d : Draft} (h : ∀ s, P s → s.drafts[number]?.getD {} = d) :
    Settled P env (Act.draftAt number) (.ok d) :=
  fun s hs => ⟨s, congrArg (fun d => ((.ok d : Except Fault Draft), s)) (h s hs), hs⟩

theorem draftOf {id number : Nat} (h : ∀ s, P s → ∃ b, s.builders[id]? = some b ∧ b.draft = number) :
    Settled P env (Act.draftOf id) (.ok number) := by
  intro s hs
  obtain ⟨b, hb, rfl⟩ := h s hs
  exact ⟨s, exec_draftOf hb, hs⟩

theorem dialect {engine : Engine} (h : ∀ s, P s → s.driver.engine = engine) :
    Settled P env Act.dialect (.ok (.ofEngine engine)) :=
  fun s hs => ⟨s, congrArg (fun engine => ((.ok (.ofEngine engine) : Except Fault Dialect), s)) (h s hs), hs⟩

/-- The outcome is the same in states of another kind if one of them is of the first kind. -/
theorem transfer {op : Act α} {outcome outcome' : Except Fault α} (h : Settled P env op outcome)
    (h' : Settled Q env op outcome') {s t : Session} (hs : P s) (ht : P t) (ht' : Q t) :
    Settled Q env op (op.exec env s).1 := by
  obtain ⟨u, hu, -⟩ := h s hs
  obtain ⟨v, hv, -⟩ := h t ht
  obtain ⟨w, hw, -⟩ := h' t ht'
  obtain rfl : outcome = outcome' := congrArg Prod.fst (hv.symm.trans hw)
  rw [hu]
  exact h'

end Settled

/-- Both operations have one outcome, the same for both: the first one in all states of one kind, and the second one in
those of another kind. -/
def Alike (P Q : Session → Prop) (env : Surroundings) (op op' : Act α) : Prop :=
  ∃ outcome, Settled P env op outcome ∧ Settled Q env op' outcome

namespace Alike

theorem of_settled {op : Act α} {outcome : Except Fault α} (h : Settled P env op outcome) : Alike P P env op op :=
  ⟨outcome, h, h⟩

theorem pure (x : α) : Alike P Q env (Pure.pure x) (Pure.pure x) := ⟨_, .pure x, .pure x⟩

theorem throw (fault : Fault) : Alike P Q env (MonadExcept.throw fault : Act α) (MonadExcept.throw fault) :=
  ⟨.error fault, fun s hs => ⟨s, rfl, hs⟩, fun s hs => ⟨s, rfl, hs⟩⟩

/-- Nothing follows a failure. -/
theorem throw_bind (fault : Fault) (k k' : α → Act β) :
    Alike P Q env (MonadExcept.throw fault >>= k) (MonadExcept.throw fault >>= k') :=
  ⟨.error fault, .bind_error fun s hs => ⟨s, rfl, hs⟩, .bind_error fun s hs => ⟨s, rfl, hs⟩⟩

theorem lift (outcome : Except Fault α) : Alike P Q env (Act.lift outcome) (Act.lift outcome) :=
  ⟨outcome, .lift _, .lift _⟩

theorem bind {op op' : Act α} {k k' : α → Act β} (hop : Alike P Q env op op')
    (hk : ∀ x, Alike P Q env (k x) (k' x)) : Alike P Q env (op >>= k) (op' >>= k') := by
  obtain ⟨outcome, h, h'⟩ := hop
  cases outcome with
  | error fault => exact ⟨.error fault, h.bind_error, h'.bind_error⟩
  | ok x =>
      obtain ⟨outcome, hk, hk'⟩ := hk x
      exact ⟨outcome, h.bind hk, h'.bind hk'⟩

/-- What the two operations read need not be the same. -/
theorem bind_of {op : Act α} {op' : Act β} {k : α → Act γ} {k' : β → Act γ} {x : α} {x' : β}
    (h : Settled P env op (.ok x)) (h' : Settled Q env op' (.ok x')) (hk : Alike P Q env (k x) (k' x')) :
    Alike P Q env (op >>= k) (op' >>= k') := by
  obtain ⟨outcome, hk, hk'⟩ := hk
  exact ⟨outcome, h.bind hk, h'.bind hk'⟩

theorem check (outcome : Except Fault α) : Alike P Q env (Act.check outcome) (Act.check outcome) :=
  bind (lift _) fun _ => pure _

/-- In two of the states the outcomes are the same. -/
theorem outcome_eq {op op' : Act α} (h : Alike P Q env op op') {s t : Session} (hs : P s) (ht : Q t) :
    (op'.exec env t).1 = (op.exec env s).1 := by
  obtain ⟨outcome, h, h'⟩ := h
  obtain ⟨u, hu, -⟩ := h s hs
  obtain ⟨v, hv, -⟩ := h' t ht
  rw [hu, hv]

end Alike

end Act

end SqlBuilder
