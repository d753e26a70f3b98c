import SqlBuilder.Proofs.Keys
import SqlBuilder.Proofs.Session.Run
import SqlBuilder.Session.Call

/-!
The hook that stands at an event in a slot: the one that was registered there last and has not been removed since. What
runs at an event is found from two such hooks, that of the event itself and that of the wildcard of its phase, so a
table of hooks is known by what stands in it, whatever the order of its entries.
-/

namespace SqlBuilder

open Act

/-! ### Wildcards -/

namespace EventKind

def wildcard : EventKind → EventKind
  | beforeAll | beforeQuery | beforeSelect | beforeInsert | beforeUpdate | beforeDelete => beforeAll
  | afterAll | afterQuery | afterSelect | afterInsert | afterUpdate | afterDelete => afterAll

/-- Only one wildcard covers an event. -/
theorem isWildcard_and_covers (kind event : EventKind) :
    (kind.isWildcard && kind.covers event) = (kind == event.wildcard) := by
  cases kind <;> cases event <;> rfl

theorem ofName?_eq_some_iff {name : String} {kind : EventKind} : ofName? name = some kind ↔ name = kind.name := by
  constructor
  · intro h
    have hname : (kind.name == name) = true := List.find?_some (p := fun k : EventKind => k.name == name) h
    exact (beq_iff_eq.1 hname).symm
  · rintro rfl
    cases kind <;> rfl

end EventKind

/-! ### The table of hooks -/

namespace HookTable

/-- The hook that is registered for exactly this event in a slot. -/
def standing? (hooks : HookTable) (kind : EventKind) (table : Value) : Option Value :=
  ((hooks.eventsOf table).find? fun entry => entry.1 == kind).map (·.2)

/-- The wildcard of the phase is asked only where the event itself has no hook. -/
theorem find?_eq (hooks : HookTable) (kind : EventKind) {table : Value} (htable : table.isRaw = false) :
    hooks.find? kind table = (hooks.standing? kind table).or (hooks.standing? kind.wildcard table) := by
  unfold find? findIn standing?
  rw [if_neg (ne_true_of_eq_false htable)]
  simp only [EventKind.isWildcard_and_covers]
  cases (hooks.eventsOf table).find? fun entry => entry.1 == kind with
  | none => rfl
  | some entry => rfl

theorem find?_insertEvent (kind other : EventKind) (hook : Value) (events : List (EventKind × Value)) :
    ((insertEvent kind hook events).find? fun entry => entry.1 == other).map (·.2) =
      if kind = other then some hook else (events.find? fun entry => entry.1 == other).map (·.2) := by
  induction events with
  | nil =>
      unfold insertEvent
      by_cases hkind : kind = other <;> simp [hkind]
  | cons entry rest ih =>
      obtain ⟨k, h⟩ := entry
      unfold insertEvent
      by_cases hk : k = kind
      · subst hk
        by_cases hkind : k = other <;> simp [hkind]
      · rw [if_neg hk]
        by_cases hkind : k = other
        · subst hkind
          simp [Ne.symm hk]
        · rw [List.find?_cons_of_neg (by simpa using hkind), List.find?_cons_of_neg (by simpa using hkind)]
          exact ih

variable {a b : String} {table other : Value}

theorem eventsOf_register (hooks : HookTable) (kind : EventKind) (hook : Value) (htable : slot table = .text a)
    (hother : slot other = .text b) : (hooks.register kind hook table).eventsOf other =
      if a = b then insertEvent kind hook (hooks.eventsOf table) else hooks.eventsOf other := by
  unfold register eventsOf
  rw [hother, htable]
  by_cases hab : a = b
  · rw [if_pos hab, hab, (Value.isExact_text b).lookup?_insertEntry_self]
    rfl
  · have hne : Value.text b ≠ .text a := fun h => hab (Value.text.inj h).symm
    rw [if_neg hab, (Value.isExact_text a).lookup?_insertEntry_of_ne (Value.isExact_text b) hne]

theorem eventsOf_remove (hooks : HookTable) (kind : EventKind) (htable : slot table = .text a)
    (hother : slot other = .text b) : (hooks.remove kind table).eventsOf other =
      if a = b then (hooks.eventsOf other).filter fun entry => entry.1 ≠ kind else hooks.eventsOf other := by
  unfold remove eventsOf
  rw [hother, htable]
  induction hooks with
  | nil => split <;> rfl
  | cons entry rest ih =>
      obtain ⟨k, events⟩ := entry
      rw [List.map_cons]
      by_cases hk : k = .text b
      · subst hk
        rw [(Value.isExact_text b).lookup?_cons_self]
        by_cases hab : a = b
        · subst hab
          rw [if_pos (Value.alike_text.2 rfl), (Value.isExact_text a).lookup?_cons_self, if_pos rfl]
          rfl
        · have hneither : ¬(Value.text a).alike (.text b) = true :=
            fun h => hab (Value.text.inj (Value.alike_text.1 h)).symm
          rw [if_neg hneither, (Value.isExact_text b).lookup?_cons_self, if_neg hab]
      · rw [(Value.isExact_text b).lookup?_cons_of_ne hk, ← ih]
        by_cases halike : (Value.text a).alike k = true
        · rw [if_pos halike, (Value.isExact_text b).lookup?_cons_of_ne hk]
        · rw [if_neg halike, (Value.isExact_text b).lookup?_cons_of_ne hk]

/-- A registration is what stands in its own slot for its own event, and leaves everything else. -/
theorem standing?_register (hooks : HookTable) (kind event : EventKind) (hook : Value) (htable : slot table = .text a)
    (hother : slot other = .text b) : (hooks.register kind hook table).standing? event other =
      if kind = event ∧ a = b then some hook else hooks.standing? event other := by
  unfold standing?
  rw [eventsOf_register hooks kind hook htable hother]
  by_cases hab : a = b
  · have hslot : hooks.eventsOf table = hooks.eventsOf other := by
      unfold eventsOf
      rw [htable, hother, hab]
    rw [if_pos hab, find?_insertEvent, hslot]
    simp only [hab, and_true]
  · rw [if_neg hab, if_neg fun h => hab h.2]

theorem standing?_remove (hooks : HookTable) (kind event : EventKind) (htable : slot table = .text a)
    (hother : slot other = .text b) : (hooks.remove kind table).standing? event other =
      if kind = event ∧ a = b then none else hooks.standing? event other := by
  unfold standing?
  rw [eventsOf_remove hooks kind htable hother]
  by_cases hab : a = b
  · rw [if_pos hab, List.find?_filter]
    by_cases hkind : kind = event
    · rw [if_pos ⟨hkind, hab⟩, hkind]
      simp
    · rw [if_neg fun h => hkind h.1]
      congr 2
      funext entry
      by_cases hentry : entry.1 = event
      · simp [hentry, Ne.symm hkind]
      · simp [hentry]
  · rw [if_neg hab, if_neg fun h => hab h.2]

end HookTable

end SqlBuilder
