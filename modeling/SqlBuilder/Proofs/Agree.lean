import SqlBuilder.Query
import SqlBuilder.Fault
import Mathlib.Data.List.Basic

/-!
Two outcomes that agree: both are the same fault, or both are results that are related. What is put together
from agreeing parts in the same way agrees again.
-/

namespace SqlBuilder

variable {α β γ δ ε : Type}

/-- A sequence succeeds if its parts do. -/
theorem exists_ok_of_bind {m : Except ε α} {k : α → Except ε β} {y : β} (h : m >>= k = .ok y) :
    ∃ x, m = .ok x ∧ k x = .ok y := by
  cases m with
  | error f => cases h
  | ok x => exact ⟨x, rfl, h⟩

/-- The same fault, or results that are related. -/
def Agree (rel : α → β → Prop) : Except Fault α → Except Fault β → Prop
  | .ok x, .ok y => rel x y
  | .error f, .error g => f = g
  | _, _ => False

namespace Agree

variable {rel : α → β → Prop} {rel' : γ → δ → Prop} {m : Except Fault α} {m' : Except Fault β}

theorem pure {x : α} {y : β} (h : rel x y) : Agree rel (Pure.pure x) (Pure.pure y) := h

theorem bind {k : α → Except Fault γ} {k' : β → Except Fault δ} (h : Agree rel m m')
    (hk : ∀ x y, rel x y → Agree rel' (k x) (k' y)) : Agree rel' (m >>= k) (m' >>= k') := by
  cases m with
  | error f =>
      cases m' with
      | error g => exact h
      | ok y => exact h.elim
  | ok x =>
      cases m' with
      | error g => exact h.elim
      | ok y => exact hk x y h

/-- An outcome agrees with itself. -/
theorem same (m : Except Fault α) : Agree Eq m m := by
  cases m with
  | error f => exact rfl
  | ok x => exact rfl

theorem eq {m m' : Except Fault α} (h : Agree Eq m m') : m = m' := by
  cases m with
  | error f =>
      cases m' with
      | error g => exact congrArg Except.error h
      | ok y => exact h.elim
  | ok x =>
      cases m' with
      | error g => exact h.elim
      | ok y => exact congrArg Except.ok h

theorem mono {rel₂ : α → β → Prop} (h : Agree rel m m') (hrel : ∀ x y, rel x y → rel₂ x y) :
    Agree rel₂ m m' := by
  cases m with
  | error f =>
      cases m' with
      | error g => exact h
      | ok y => exact h.elim
  | ok x =>
      cases m' with
      | error g => exact h.elim
      | ok y => exact hrel x y h

/-- An outcome agrees with itself by a relation that every result has to itself. -/
theorem refl {rel : α → α → Prop} (hrel : ∀ x, rel x x) (m : Except Fault α) : Agree rel m m :=
  (same m).mono fun x _ h => h ▸ hrel x

/-- What is known of the results under a condition. -/
theorem and_imp {rel₂ : α → β → Prop} {c : Prop} (h : Agree rel m m') (h₂ : c → Agree rel₂ m m') :
    Agree (fun x y => rel x y ∧ (c → rel₂ x y)) m m' := by
  cases m with
  | error f =>
      cases m' with
      | error g => exact h
      | ok y => exact h.elim
  | ok x =>
      cases m' with
      | error g => exact h.elim
      | ok y => exact ⟨h, fun hc => h₂ hc⟩

/-- Two outcomes that agree with a third one agree with each other. -/
theorem meet {rel₂ : α → γ → Prop} {m₂ : Except Fault γ} (h : Agree rel m m') (h₂ : Agree rel₂ m m₂) :
    Agree (fun y z => ∃ x, rel x y ∧ rel₂ x z) m' m₂ := by
  cases m with
  | error f =>
      cases m' with
      | ok y => exact h.elim
      | error g =>
          cases m₂ with
          | ok z => exact h₂.elim
          | error g₂ => exact Eq.trans (Eq.symm h) h₂
  | ok x =>
      cases m' with
      | error g => exact h.elim
      | ok y =>
          cases m₂ with
          | error g₂ => exact h₂.elim
          | ok z => exact ⟨x, h, h₂⟩

theorem symm (h : Agree rel m m') : Agree (fun y x => rel x y) m' m := by
  cases m with
  | error f =>
      cases m' with
      | error g => exact Eq.symm h
      | ok y => exact h.elim
  | ok x =>
      cases m' with
      | error g => exact h.elim
      | ok y => exact h

/-- An outcome that agrees with a result is a result. -/
theorem exists_ok {x : α} (h : Agree rel (.ok x) m') : ∃ y, m' = .ok y ∧ rel x y := by
  cases m' with
  | error g => exact h.elim
  | ok y => exact ⟨y, rfl, h⟩

end Agree

end SqlBuilder
