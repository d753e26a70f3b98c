import SqlBuilder.Proofs.Placeholder.Directives
import SqlBuilder.Proofs.Statement.Interpolation

/-!
The question marks that give way to values. In the conversion for a database these are the placeholders, which stand
outside of quotations. Where the values of a statement are put in place to show it, they are the first question marks,
as many as there are values, and quotations do not count. So the two go together exactly if each of these question marks
is a placeholder.
-/

namespace SqlBuilder

def Text.leadingMarks : Nat → List Char → List Bool
  | _, [] => []
  | n, c :: cs => if c = '?' then decide (0 < n) :: leadingMarks (n - 1) cs else false :: leadingMarks n cs

/-- The text with the values as literals where the mask tells, one after the other. -/
def Value.inserted? (hasEscapes : Bool) : List (Char × Bool) → List Value → Option (List Char)
  | [], _ => some []
  | (_, true) :: rest, v :: values =>
    (v.literal? hasEscapes).bind fun text => (inserted? hasEscapes rest values).map (text.toList ++ ·)
  | (c, _) :: rest, values => (inserted? hasEscapes rest values).map (c :: ·)

namespace Text

theorem leadingMarks_of_ne {c : Char} (hc : c ≠ '?') (n : Nat) (cs : List Char) :
    leadingMarks n (c :: cs) = false :: leadingMarks n cs := if_neg hc

theorem leadingMarks_zero (cs : List Char) : leadingMarks 0 ('?' :: cs) = false :: leadingMarks 0 cs := rfl

theorem leadingMarks_succ (n : Nat) (cs : List Char) :
    leadingMarks (n + 1) ('?' :: cs) = true :: leadingMarks n cs := rfl

theorem length_leadingMarks (n : Nat) (cs : List Char) : (leadingMarks n cs).length = cs.length := by
  induction cs generalizing n with
  | nil => rfl
  | cons c cs ih =>
      by_cases hc : c = '?'
      · rw [leadingMarks, if_pos hc, List.length_cons, ih, List.length_cons]
      · rw [leadingMarks_of_ne hc, List.length_cons, ih, List.length_cons]

/-- A question mark is among the first ones if fewer stand in front of it. -/
theorem getElem?_leadingMarks (n : Nat) (front behind : List Char) :
    (leadingMarks n (front ++ '?' :: behind))[front.length]? = some (decide (front.count '?' < n)) := by
  induction front generalizing n with
  | nil => rfl
  | cons c front ih =>
      rw [List.cons_append, List.length_cons]
      by_cases hc : c = '?'
      · subst hc
        rw [List.count_cons_self]
        cases n with
        | zero => rw [leadingMarks_zero, List.getElem?_cons_succ, ih]; simp
        | succ n => rw [leadingMarks_succ, List.getElem?_cons_succ, ih]; simp
      · rw [leadingMarks_of_ne hc, List.getElem?_cons_succ, ih, List.count_cons_of_ne hc]

/-- A mask of no more than that many question marks tells the first ones if all of these are in it. -/
theorem leadingMarks_eq {cs : List Char} {mask : List Bool} (hlength : cs.length = mask.length)
    (hmarks : ∀ place ∈ cs.zip mask, place.2 = true → place.1 = '?') {n : Nat} (hcount : mask.count true ≤ n)
    (h : ∀ front behind, cs = front ++ '?' :: behind → front.count '?' < n → mask[front.length]? = some true) :
    leadingMarks n cs = mask := by
  induction cs generalizing mask n with
  | nil => exact (List.length_eq_zero_iff.1 hlength.symm).symm
  | cons c cs ih =>
      obtain ⟨isMarked, mask, rfl⟩ := List.exists_cons_of_length_eq_add_one hlength.symm
      have htail : cs.length = mask.length := Nat.succ.inj hlength
      have htailMarks : ∀ place ∈ cs.zip mask, place.2 = true → place.1 = '?' := fun place hplace =>
        hmarks place (List.mem_cons_of_mem _ hplace)
      by_cases hc : c = '?'
      · subst hc
        cases n with
        | zero =>
            obtain ⟨hbare, hcount⟩ : isMarked = false ∧ mask.count true ≤ 0 := by
              cases isMarked <;> simp_all
            rw [leadingMarks_zero, hbare, ih htail htailMarks hcount fun _ _ _ hlt => absurd hlt (Nat.not_lt_zero _)]
        | succ n =>
            obtain rfl : isMarked = true := Option.some.inj (h [] cs rfl (Nat.succ_pos n))
            rw [List.count_cons_self] at hcount
            rw [leadingMarks_succ, ih htail htailMarks (Nat.le_of_succ_le_succ hcount) fun front behind hcs hlt => ?_]
            refine h ('?' :: front) behind (congrArg ('?' :: ·) hcs) ?_
            rw [List.count_cons_self]
            exact Nat.succ_lt_succ hlt
      · obtain rfl : isMarked = false := Bool.eq_false_iff.2 fun hmarked =>
          hc (hmarks (c, isMarked) List.mem_cons_self hmarked)
        rw [List.count_cons_of_ne (by decide)] at hcount
        rw [leadingMarks_of_ne hc, ih htail htailMarks hcount fun front behind hcs hlt => ?_]
        refine h (c :: front) behind (congrArg (c :: ·) hcs) ?_
        rwa [List.count_cons_of_ne hc]

end Text

namespace Value

variable {hasEscapes : Bool}

theorem inserted?_nil (places : List (Char × Bool)) : inserted? hasEscapes places [] = some (places.map Prod.fst) := by
  induction places with
  | nil => rfl
  | cons place places ih =>
      obtain ⟨c, isMarked⟩ := place
      cases isMarked <;> simp [inserted?, ih]

/-- The values of a statement go in place of the first question marks. -/
theorem filled?_eq_inserted (cs : List Char) (values : List Value) : filled? hasEscapes cs values =
    inserted? hasEscapes (cs.zip (Text.leadingMarks values.length cs)) values := by
  have hnone : ∀ cs, filled? hasEscapes cs [] = inserted? hasEscapes (cs.zip (Text.leadingMarks 0 cs)) [] := by
    intro cs
    rw [inserted?_nil, List.map_fst_zip (Nat.le_of_eq (Text.length_leadingMarks 0 cs).symm), filled?]
  induction cs generalizing values with
  | nil => cases values <;> rfl
  | cons c cs ih =>
      cases values with
      | nil => exact hnone (c :: cs)
      | cons v values =>
          by_cases hc : c = '?'
          · subst hc
            have hsplit : Text.splitFirstChars '?' ('?' :: cs) = ([], some cs) := if_pos rfl
            rw [filled?, hsplit, List.length_cons, Text.leadingMarks_succ, List.zip_cons_cons, inserted?, ← ih]
            rfl
          · rw [filled?_cons hc, ih, Text.leadingMarks_of_ne hc, List.zip_cons_cons]
            rfl

end Value

/-- The conversion numbers the placeholders, and in the statement with its values in place these take the places of the
first question marks. With as many values as placeholders or more, those are the same places exactly if each of the
first question marks is a placeholder. -/
theorem PlaceholderStyle.text_marks_iff (style : PlaceholderStyle) (sql : String) {mask : List Bool}
    (hmask : Masks sql.toList mask) {bindings : List Value} (hcount : mask.count true ≤ bindings.length)
    (hasEscapes : Bool) :
    (style.convert sql).toList = style.replaced 0 (sql.toList.zip mask) ∧
    (Issued.mk (.text sql) bindings hasEscapes).text? =
      (Value.inserted? hasEscapes (sql.toList.zip (Text.leadingMarks bindings.length sql.toList)) bindings).map
        String.ofList ∧
    (Text.leadingMarks bindings.length sql.toList = mask ↔ ∀ front behind, sql.toList = front ++ '?' :: behind →
      front.count '?' < bindings.length → mask[front.length]? = some true) := by
  refine ⟨style.toList_convert hmask, ?_, fun heq front behind hsql hlt => ?_, fun h => ?_⟩
  · rw [← Value.filled?_eq_inserted]
    simp [Issued.text?, Issued.toValue, Value.written?, Value.text?]
  · rw [← heq, hsql, Text.getElem?_leadingMarks, decide_eq_true hlt]
  · exact Text.leadingMarks_eq hmask.length_eq hmask.eq_mark hcount h

/-- A quoted question mark behind the last placeholder that has a value is kept on both sides. -/
theorem PlaceholderStyle.text_marks_iff_behind : ∃ mask, Masks "age = ? AND name LIKE '%?'".toList mask ∧
    mask.count true ≤ [Value.int 5].length ∧
    (∀ front behind, "age = ? AND name LIKE '%?'".toList = front ++ '?' :: behind → front.count '?' < 1 →
      mask[front.length]? = some true) ∧
    (Issued.mk (.text "age = ? AND name LIKE '%?'") [.int 5] false).text? = some "age = 5 AND name LIKE '%?'" := by
  have hmask := SqlToken.masks_ofChars "age = ? AND name LIKE '%?'".toList
  have hcount : ((SqlToken.ofChars "age = ? AND name LIKE '%?'".toList).flatMap SqlToken.mask).count true ≤
      [Value.int 5].length := by decide +kernel
  have hsame : Text.leadingMarks 1 "age = ? AND name LIKE '%?'".toList =
      (SqlToken.ofChars "age = ? AND name LIKE '%?'".toList).flatMap SqlToken.mask := by decide +kernel
  obtain ⟨-, htext, hiff⟩ := numeric.text_marks_iff "age = ? AND name LIKE '%?'" hmask hcount false
  exact ⟨_, hmask, hcount, hiff.1 hsame, htext.trans (by decide +kernel)⟩

/-- In front of a placeholder it takes the value of that placeholder, which is left without one. -/
theorem not_text_marks : ∃ mask, Masks "name LIKE '%?' AND age = ?".toList mask ∧
    mask.count true ≤ [Value.int 5].length ∧
    (PlaceholderStyle.numeric.convert "name LIKE '%?' AND age = ?") = "name LIKE '%?' AND age = :1" ∧
    (Value.inserted? false ("name LIKE '%?' AND age = ?".toList.zip mask) [.int 5]).map String.ofList =
      some "name LIKE '%?' AND age = 5" ∧
    (Issued.mk (.text "name LIKE '%?' AND age = ?") [.int 5] false).text? = some "name LIKE '%5' AND age = ?" :=
  ⟨_, SqlToken.masks_ofChars _, by decide +kernel, by decide +kernel, by decide +kernel, by decide +kernel⟩

end SqlBuilder
