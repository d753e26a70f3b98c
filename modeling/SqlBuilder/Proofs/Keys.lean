import SqlBuilder.Value

/-!
Entries under keys that are found only under themselves. A text is such a key, with surrogates or without; a number is
not, for a truth value is found in its place.
-/

namespace SqlBuilder

namespace Value

/-- The key is found only under itself. -/
def IsExact (key : Value) : Prop := ∀ v : Value, key.alike v = true ↔ v = key

theorem alike_text {a : String} {v : Value} : (text a).alike v = true ↔ v = text a := by
  cases v with
  | text b =>
      change (a == b) = true ↔ _
      rw [beq_iff_eq, text.injEq]
      exact eq_comm
  | _ =>
      constructor
      · intro h
        cases h
      · intro h
        cases h

theorem alike_surrogates {a : String} {v : Value} : (surrogates a).alike v = true ↔ v = surrogates a := by
  cases v with
  | surrogates b =>
      change (a == b) = true ↔ _
      rw [beq_iff_eq, surrogates.injEq]
      exact eq_comm
  | _ =>
      constructor
      · intro h
        cases h
      · intro h
        cases h

theorem isExact_text (a : String) : (text a).IsExact := fun _ => alike_text

theorem isExact_surrogates (a : String) : (surrogates a).IsExact := fun _ => alike_surrogates

namespace IsExact

variable {α : Type} {key other : Value}

theorem alike_self (hkey : key.IsExact) : key.alike key = true := (hkey key).2 rfl

theorem alike_of_ne (hkey : key.IsExact) {v : Value} (hv : v ≠ key) : key.alike v = false :=
  Bool.eq_false_iff.2 (mt (hkey v).1 hv)

theorem lookup?_cons_self (hkey : key.IsExact) (x : α) (rest : List (Value × α)) :
    lookup? key ((key, x) :: rest) = some x := by
  unfold lookup? List.find?
  rw [hkey.alike_self]
  rfl

theorem lookup?_cons_of_ne (hkey : key.IsExact) {k : Value} (hk : k ≠ key) (x : α) (rest : List (Value × α)) :
    lookup? key ((k, x) :: rest) = lookup? key rest := by
  unfold lookup?
  rw [List.find?_cons, hkey.alike_of_ne hk]

theorem lookup?_eq_none_iff (hkey : key.IsExact) (entries : List (Value × α)) :
    lookup? key entries = none ↔ key ∉ entries.map (·.1) := by
  induction entries with
  | nil =>
      rw [List.map_nil]
      exact iff_of_true rfl List.not_mem_nil
  | cons entry rest ih =>
      obtain ⟨k, x⟩ := entry
      rw [List.map_cons, List.mem_cons, not_or]
      by_cases hk : k = key
      · rw [hk, hkey.lookup?_cons_self]
        exact iff_of_false (Option.some_ne_none x) fun h => h.1 rfl
      · rw [hkey.lookup?_cons_of_ne hk, ih]
        exact (and_iff_right (Ne.symm hk)).symm

/-- A new entry is found under its key. -/
theorem lookup?_insertEntry_self (hkey : key.IsExact) (x : α) (entries : List (Value × α)) :
    lookup? key (insertEntry key x entries) = some x := by
  induction entries with
  | nil => exact hkey.lookup?_cons_self x []
  | cons entry rest ih =>
      obtain ⟨k, y⟩ := entry
      unfold insertEntry
      by_cases hk : k = key
      · rw [hk, if_pos hkey.alike_self, hkey.lookup?_cons_self]
      · rw [if_neg (mt (hkey k).1 hk), hkey.lookup?_cons_of_ne hk, ih]

/-- A new entry hides nothing that is found under another key. -/
theorem lookup?_insertEntry_of_ne (hkey : key.IsExact) (hother : other.IsExact) (hne : other ≠ key) (x : α)
    (entries : List (Value × α)) : lookup? other (insertEntry key x entries) = lookup? other entries := by
  induction entries with
  | nil => exact hother.lookup?_cons_of_ne hne.symm x []
  | cons entry rest ih =>
      obtain ⟨k, y⟩ := entry
      unfold insertEntry
      by_cases hk : k = key
      · rw [hk, if_pos hkey.alike_self, hother.lookup?_cons_of_ne hne.symm, hother.lookup?_cons_of_ne hne.symm]
      · rw [if_neg (mt (hkey k).1 hk)]
        by_cases hkother : k = other
        · rw [hkother, hother.lookup?_cons_self, hother.lookup?_cons_self]
        · rw [hother.lookup?_cons_of_ne hkother, hother.lookup?_cons_of_ne hkother, ih]

/-- A known key keeps its place. -/
theorem keys_insertEntry_of_mem (hkey : key.IsExact) (x : α) {entries : List (Value × α)}
    (hmem : key ∈ entries.map (·.1)) : (insertEntry key x entries).map (·.1) = entries.map (·.1) := by
  induction entries with
  | nil => cases hmem
  | cons entry rest ih =>
      obtain ⟨k, y⟩ := entry
      unfold insertEntry
      by_cases hk : k = key
      · rw [if_pos ((hkey k).2 hk)]
        rfl
      · have hrest : key ∈ rest.map (·.1) := (List.mem_cons.1 hmem).resolve_left (Ne.symm hk)
        rw [if_neg (mt (hkey k).1 hk), List.map_cons, List.map_cons, ih hrest]

/-- A new entry comes in at the end. -/
theorem insertEntry_of_not_mem (hkey : key.IsExact) (x : α) {entries : List (Value × α)}
    (hmem : key ∉ entries.map (·.1)) : insertEntry key x entries = entries ++ [(key, x)] := by
  induction entries with
  | nil => rfl
  | cons entry rest ih =>
      obtain ⟨k, y⟩ := entry
      obtain ⟨hk, hrest⟩ := not_or.1 (mt List.mem_cons.2 hmem)
      unfold insertEntry
      rw [if_neg (mt (hkey k).1 (Ne.symm hk)), ih hrest, List.cons_append]

theorem keys_insertEntry_of_not_mem (hkey : key.IsExact) (x : α) {entries : List (Value × α)}
    (hmem : key ∉ entries.map (·.1)) :
    (insertEntry key x entries).map (·.1) = entries.map (·.1) ++ [key] := by
  rw [hkey.insertEntry_of_not_mem x hmem, List.map_append]
  rfl

theorem lookup?_removed_of_ne (hkey : key.IsExact) (hother : other.IsExact) (hne : other ≠ key)
    (entries : List (Value × α)) :
    lookup? other (entries.filter fun entry => !key.alike entry.1) = lookup? other entries := by
  induction entries with
  | nil => rfl
  | cons entry rest ih =>
      obtain ⟨k, y⟩ := entry
      by_cases hk : k = key
      · rw [List.filter_cons_of_neg (by simp [hk, hkey.alike_self]), hk, hother.lookup?_cons_of_ne hne.symm, ih]
      · rw [List.filter_cons_of_pos (by simp [hkey.alike_of_ne hk])]
        by_cases hkother : k = other
        · rw [hkother, hother.lookup?_cons_self, hother.lookup?_cons_self]
        · rw [hother.lookup?_cons_of_ne hkother, hother.lookup?_cons_of_ne hkother, ih]

end IsExact

end Value

end SqlBuilder
