import Mathlib.Algebra.Order.Field.Power
import Mathlib.Data.Nat.Cast.Field
import Mathlib.Data.Rat.Cast.Order
import Mathlib.Tactic.Ring
import SqlBuilder.Value

/-!
Equality of values goes both ways, and over values in between. Numbers are equal as numbers, whether they are integers,
truth values or floating-point numbers, and collections by what they hold; so a set must hold nothing twice, and a
mapping no key. What is no number equals nothing, so that equality need not hold of a value and itself.
-/

namespace SqlBuilder

namespace Number.Binary64

variable {x y : Binary64} {i : Int}

/-- The sign and the two fields are all that there is to a number. -/
theorem eq_of_fields (hnegative : x.isNegative = y.isNegative) (hexponent : x.exponentField = y.exponentField)
    (hfraction : x.fraction = y.fraction) : x = y := by
  obtain ⟨⟨⟨m, hm⟩⟩⟩ := x
  obtain ⟨⟨⟨n, hn⟩⟩⟩ := y
  change decide (9223372036854775808 ≤ m) = decide (9223372036854775808 ≤ n) at hnegative
  change m / 4503599627370496 % 2048 = n / 4503599627370496 % 2048 at hexponent
  change m % 4503599627370496 = n % 4503599627370496 at hfraction
  have hmn : m = n := by
    rw [decide_eq_decide] at hnegative
    omega
  subst hmn
  rfl

/-- A finite number is zero, has no hidden bit, or has one, and then its magnitude tells its fields. -/
theorem magnitude_cases {m : Nat} {e : Int} (h : x.magnitude = .finite m e) :
    (x.exponentField = 0 ∧ x.fraction = m ∧ m < 2 ^ 52 ∧ e = -1074) ∨
      (m = 2 ^ 52 + x.fraction ∧ m < 2 ^ 53 ∧ e = x.exponentField - 1075) := by
  have hfraction : x.fraction < 2 ^ 52 := Nat.mod_lt _ (by decide)
  unfold magnitude at h
  split at h
  · split at h <;> cases h
  · split at h
    · rename_i hzero
      cases h
      exact .inl ⟨hzero, rfl, hfraction, rfl⟩
    · cases h
      refine .inr ⟨rfl, ?_, rfl⟩
      change 2 ^ 52 + x.fraction < 2 ^ 53
      omega

/-- The integer that a number is has its magnitude. -/
theorem magnitude_of_sameInt (h : x.sameInt i = true) : ∃ m e, x.magnitude = .finite m e ∧
    ((i.natAbs : ℚ) = m * (2 : ℚ) ^ e) ∧ (i ≠ 0 → (x.isNegative = true ↔ i < 0)) := by
  unfold sameInt isIntegral truncate? at h
  rw [Bool.and_eq_true] at h
  obtain ⟨hintegral, htruncate⟩ := h
  rw [beq_iff_eq] at htruncate
  cases hmagnitude : x.magnitude with
  | infinite => simp [hmagnitude] at htruncate
  | notANumber => simp [hmagnitude] at htruncate
  | finite m e =>
      rw [hmagnitude] at hintegral htruncate
      have hi : i = if x.isNegative then -(integerPart m e : Int) else integerPart m e :=
        (Option.some.inj htruncate).symm
      have habs : i.natAbs = integerPart m e := by
        rw [hi]
        split <;> simp
      refine ⟨m, e, rfl, ?_, fun hne => ?_⟩
      · rw [habs]
        cases e with
        | ofNat n =>
            change ((m * 2 ^ n : Nat) : ℚ) = m * (2 : ℚ) ^ (n : Int)
            rw [zpow_natCast]
            push_cast
            rfl
        | negSucc n =>
            change ((m / 2 ^ (n + 1) : Nat) : ℚ) = m * (2 : ℚ) ^ (Int.negSucc n)
            have hdvd : 2 ^ (n + 1) ∣ m := Nat.dvd_of_mod_eq_zero (beq_iff_eq.1 hintegral)
            rw [Nat.cast_div hdvd (Nat.cast_ne_zero.2 (Nat.two_pow_pos _).ne'), zpow_negSucc, div_eq_mul_inv]
            push_cast
            rfl
      · rw [hi] at hne ⊢
        split
        · rename_i hnegative
          rw [if_pos hnegative] at hne
          exact iff_of_true hnegative (by omega)
        · rename_i hnegative
          exact iff_of_false hnegative (by omega)

/-- Of two significands with as many digits, one that goes with a greater exponent stands for more. -/
theorem exponent_le {m m' : Nat} {e e' : Int} (hm : 2 ^ 52 ≤ m) (hm' : m' < 2 ^ 53)
    (h : (m : ℚ) * 2 ^ e = m' * 2 ^ e') : e ≤ e' := by
  by_contra hlt
  have hlow : (2 : ℚ) ^ 52 ≤ m := by exact_mod_cast hm
  have hhigh : (m' : ℚ) < 2 ^ 53 := by exact_mod_cast hm'
  have hstep : (2 : ℚ) ^ (e' + 1) ≤ 2 ^ e := zpow_le_zpow_right₀ one_le_two (by omega)
  have hless : (m : ℚ) * 2 ^ e < m * 2 ^ e := calc
    (m : ℚ) * 2 ^ e = m' * 2 ^ e' := h
    _ < 2 ^ 53 * 2 ^ e' := mul_lt_mul_of_pos_right hhigh (by positivity)
    _ = 2 ^ 52 * 2 ^ (e' + 1) := by rw [zpow_add_one₀ two_ne_zero]; ring
    _ ≤ 2 ^ 52 * 2 ^ e := mul_le_mul_of_nonneg_left hstep (by positivity)
    _ ≤ m * 2 ^ e := mul_le_mul_of_nonneg_right hlow (by positivity)
  exact lt_irrefl _ hless

/-- A number that is zero has the magnitude of zero. -/
theorem magnitude_of_sameInt_zero (h : x.sameInt 0 = true) : x.magnitude = .finite 0 (-1074) := by
  obtain ⟨m, e, hmagnitude, hvalue, -⟩ := magnitude_of_sameInt h
  have hm : m = 0 := by
    have hproduct : (m : ℚ) * 2 ^ e = 0 := hvalue.symm
    rcases mul_eq_zero.1 hproduct with hm | hpower
    · exact_mod_cast hm
    · exact absurd hpower (zpow_ne_zero e two_ne_zero)
  subst hm
  rcases magnitude_cases hmagnitude with ⟨-, -, -, rfl⟩ | ⟨hhidden, -⟩
  · exact hmagnitude
  · omega

/-- An integer other than zero has a leading bit in its place, since the numbers without one are below one. -/
theorem fields_of_sameInt (h : x.sameInt i = true) (hi : i ≠ 0) :
    2 ^ 52 + x.fraction < 2 ^ 53 ∧
      (i.natAbs : ℚ) = (2 ^ 52 + x.fraction : Nat) * (2 : ℚ) ^ ((x.exponentField : Int) - 1075) ∧
      (x.isNegative = true ↔ i < 0) := by
  obtain ⟨m, e, hmagnitude, hvalue, hsign⟩ := magnitude_of_sameInt h
  rcases magnitude_cases hmagnitude with ⟨-, -, hsmall, rfl⟩ | ⟨rfl, hbound, rfl⟩
  · have hone : (1 : ℚ) ≤ i.natAbs := by exact_mod_cast Int.natAbs_pos.2 hi
    have hcast : (m : ℚ) < 2 ^ 52 := by exact_mod_cast hsmall
    have hless : (i.natAbs : ℚ) < 1 := calc
      (i.natAbs : ℚ) = m * 2 ^ (-1074 : Int) := hvalue
      _ < 2 ^ 52 * 2 ^ (-1074 : Int) := mul_lt_mul_of_pos_right hcast (by positivity)
      _ ≤ 1 := by
        rw [← zpow_natCast, ← zpow_add₀ two_ne_zero]
        exact zpow_le_one_of_nonpos₀ one_le_two (by norm_num)
    exact absurd hone (not_le.2 hless)
  · exact ⟨hbound, hvalue, hsign hi⟩

/-- Floating-point numbers that are one integer are equal. -/
theorem same_of_sameInt (hx : x.sameInt i = true) (hy : y.sameInt i = true) : x.same y = true := by
  have hnumber : ∀ {z : Binary64}, z.sameInt i = true → z.isNaN = false := by
    intro z hz
    obtain ⟨m, e, hmagnitude, -⟩ := magnitude_of_sameInt hz
    unfold isNaN
    rw [hmagnitude]
    rfl
  unfold same
  rw [hnumber hx, hnumber hy]
  by_cases hi : i = 0
  · subst hi
    rw [magnitude_of_sameInt_zero hx, magnitude_of_sameInt_zero hy]
    simp
  · obtain ⟨hboundx, hvaluex, hsignx⟩ := fields_of_sameInt hx hi
    obtain ⟨hboundy, hvaluey, hsigny⟩ := fields_of_sameInt hy hi
    have hvalues := hvaluex.symm.trans hvaluey
    have hexponents : (x.exponentField : Int) - 1075 = y.exponentField - 1075 :=
      le_antisymm (exponent_le (Nat.le_add_right _ _) hboundy hvalues)
        (exponent_le (Nat.le_add_right _ _) hboundx hvalues.symm)
    rw [hexponents] at hvalues
    have hsignificands : 2 ^ 52 + x.fraction = 2 ^ 52 + y.fraction := by
      exact_mod_cast mul_right_cancel₀ (zpow_ne_zero _ two_ne_zero) hvalues
    have hxy : x = y := eq_of_fields (Bool.eq_iff_iff.2 (hsignx.trans hsigny.symm)) (by omega) (by omega)
    simp [hxy]

theorem same_symm (h : x.same y = true) : y.same x = true := by
  unfold same at h ⊢
  simp only [Bool.and_eq_true, Bool.or_eq_true, decide_eq_true_eq, Bool.not_eq_true'] at h ⊢
  obtain ⟨⟨hx, hy⟩, hxy⟩ := h
  exact ⟨⟨hy, hx⟩, hxy.imp Eq.symm And.symm⟩

theorem same_trans {z : Binary64} (hxy : x.same y = true) (hyz : y.same z = true) : x.same z = true := by
  unfold same at hxy hyz ⊢
  simp only [Bool.and_eq_true, Bool.or_eq_true, decide_eq_true_eq, Bool.not_eq_true'] at hxy hyz ⊢
  obtain ⟨⟨hx, -⟩, rfl | ⟨hzerox, hzeroy⟩⟩ := hxy
  · exact hyz
  · obtain ⟨⟨-, hz⟩, rfl | ⟨-, hzeroz⟩⟩ := hyz
    · exact ⟨⟨hx, hz⟩, .inr ⟨hzerox, hzeroy⟩⟩
    · exact ⟨⟨hx, hz⟩, .inr ⟨hzerox, hzeroz⟩⟩

theorem sameInt_iff_of_zero (h : x.magnitude = .finite 0 (-1074)) : x.sameInt i = true ↔ i = 0 := by
  have hintegral : ∀ e, x.magnitude = .finite 0 e → x.isIntegral = true := by
    intro e he
    unfold isIntegral
    rw [he]
    cases e with
    | ofNat n => rfl
    | negSucc n => exact beq_iff_eq.2 (Nat.zero_mod _)
  have htruncate : ∀ e, x.magnitude = .finite 0 e → x.truncate? = some 0 := by
    intro e he
    have hpart : integerPart 0 e = 0 := by
      cases e with
      | ofNat n => exact Nat.zero_mul _
      | negSucc n => exact Nat.zero_div _
    unfold truncate?
    rw [he]
    simp [hpart]
  unfold sameInt
  rw [hintegral _ h, htruncate _ h, Bool.true_and, beq_iff_eq, Option.some.injEq]
  exact eq_comm

/-- Equal numbers are the same integers. -/
theorem sameInt_of_same (hxy : x.same y = true) (hy : y.sameInt i = true) : x.sameInt i = true := by
  unfold same at hxy
  simp only [Bool.and_eq_true, Bool.or_eq_true, decide_eq_true_eq, Bool.not_eq_true'] at hxy
  obtain ⟨-, rfl | ⟨hzerox, hzeroy⟩⟩ := hxy
  · exact hy
  · exact (sameInt_iff_of_zero hzerox).2 ((sameInt_iff_of_zero hzeroy).1 hy)

theorem sameInt_unique {j : Int} (hi : x.sameInt i = true) (hj : x.sameInt j = true) : i = j := by
  unfold sameInt at hi hj
  rw [Bool.and_eq_true, beq_iff_eq] at hi hj
  exact Option.some.inj (hi.2.symm.trans hj.2)

end Number.Binary64

namespace Moment

variable {m n : Moment}

/-- What a moment is compared by: the instant if its offset is known, and otherwise the moment itself. -/
def compared (m : Moment) : Moment ⊕ Int :=
  match m.time with
  | none => .inl m
  | some time => match time.offset with
    | none => .inl m
    | some offset => .inr (instant m.dayNumber time offset)

theorem same_iff : m.same n = true ↔ m.compared = n.compared := by
  obtain ⟨year, month, day, _ | ⟨hour, minute, second, microsecond, _ | offset⟩⟩ := m
  all_goals
    obtain ⟨year', month', day', _ | ⟨hour', minute', second', microsecond', _ | offset'⟩⟩ := n
    all_goals simp [same, compared]

end Moment

namespace Value

/-! ### Values that hold no others -/

/-- The ways for two values that hold no others to be equal. -/
inductive Equated : Value → Value → Prop where
  | null : Equated .null .null
  | text (s : String) : Equated (.text s) (.text s)
  | surrogates (s : String) : Equated (.surrogates s) (.surrogates s)
  | bytes (content : List UInt8) : Equated (.bytes content) (.bytes content)
  | moment {m n : Moment} (h : m.same n = true) : Equated (.moment m) (.moment n)
  | group (n : Nat) : Equated (.group n) (.group n)
  | hook (name name' : String) (n : Nat) : Equated (.hook name n) (.hook name' n)
  | builder (kind kind' : BuilderKind) (n : Nat) : Equated (.builder kind n) (.builder kind' n)
  | floats {x y : Number.Binary64} (h : x.same y = true) : Equated (.float x) (.float y)
  | floatNumber {x : Number.Binary64} {b : Value} {i : Int} (hb : b.asInt? = some i) (h : x.sameInt i = true) :
      Equated (.float x) b
  | numberFloat {a : Value} {y : Number.Binary64} {i : Int} (ha : a.asInt? = some i) (h : y.sameInt i = true) :
      Equated a (.float y)
  | numbers {a b : Value} {i : Int} (ha : a.asInt? = some i) (hb : b.asInt? = some i) : Equated a b

theorem sameScalar_iff {a b : Value} : sameScalar a b = true ↔ Equated a b := by
  constructor
  · intro h
    unfold sameScalar at h
    split at h
    case h_1 => exact .null
    case h_2 => exact eq_of_beq h ▸ .text _
    case h_3 => exact eq_of_beq h ▸ .surrogates _
    case h_4 => exact eq_of_beq h ▸ .bytes _
    case h_5 => exact .moment h
    case h_6 => exact .floats h
    case h_7 =>
      split at h
      · exact .floatNumber ‹_› h
      · cases h
    case h_8 =>
      split at h
      · exact .numberFloat ‹_› h
      · cases h
    case h_9 => exact eq_of_beq h ▸ .group _
    case h_10 => exact eq_of_beq h ▸ .hook _ _ _
    case h_11 => exact eq_of_beq h ▸ .builder _ _ _
    case h_12 =>
      split at h
      · rename_i i j hi hj
        exact .numbers hi (eq_of_beq h ▸ hj)
      · cases h
  · intro h
    cases h with
    | null => rfl
    | text s => exact beq_self_eq_true s
    | surrogates s => exact beq_self_eq_true s
    | bytes content => exact beq_self_eq_true content
    | moment h => exact h
    | group n => exact beq_self_eq_true n
    | hook _ _ n => exact beq_self_eq_true n
    | builder _ _ n => exact beq_self_eq_true n
    | floats h => exact h
    | floatNumber hb h => cases b <;> first | cases hb; exact h | cases hb
    | numberFloat ha h => cases a <;> first | cases ha; exact h | cases ha
    | numbers ha hb =>
        have hcases : ∀ {v : Value} {i : Int}, v.asInt? = some i → (∃ m, v = .int m) ∨ ∃ p, v = .bool p := by
          intro v i hv
          cases v <;> first | exact .inl ⟨_, rfl⟩ | exact .inr ⟨_, rfl⟩ | cases hv
        obtain ⟨m, rfl⟩ | ⟨p, rfl⟩ := hcases ha
        all_goals
          obtain ⟨n, rfl⟩ | ⟨q, rfl⟩ := hcases hb
          all_goals exact beq_iff_eq.2 (Option.some.inj (ha.trans hb.symm))

namespace Equated

variable {a b c : Value}

theorem symm (h : Equated a b) : Equated b a := by
  cases h with
  | null => exact .null
  | text s => exact .text s
  | surrogates s => exact .surrogates s
  | bytes content => exact .bytes content
  | moment h => exact .moment (Moment.same_iff.2 (Moment.same_iff.1 h).symm)
  | group n => exact .group n
  | hook name name' n => exact .hook name' name n
  | builder kind kind' n => exact .builder kind' kind n
  | floats h => exact .floats (Number.Binary64.same_symm h)
  | floatNumber hb h => exact .numberFloat hb h
  | numberFloat ha h => exact .floatNumber ha h
  | numbers ha hb => exact .numbers hb ha

/-- What equals an integer is that integer, or a floating-point number that is. -/
theorem of_number {i : Int} (ha : a.asInt? = some i) (h : Equated a b) :
    b.asInt? = some i ∨ ∃ y, b = .float y ∧ y.sameInt i = true := by
  cases h with
  | numberFloat ha' h => exact .inr ⟨_, rfl, by rw [← Option.some.inj (ha'.symm.trans ha)]; exact h⟩
  | numbers ha' hb => exact .inl (hb.trans (ha'.symm.trans ha))
  | _ => cases ha

theorem of_float {x : Number.Binary64} (h : Equated (.float x) b) :
    (∃ y, b = .float y ∧ x.same y = true) ∨ ∃ i, b.asInt? = some i ∧ x.sameInt i = true := by
  cases h with
  | floats h => exact .inl ⟨_, rfl, h⟩
  | floatNumber hb h => exact .inr ⟨_, hb, h⟩
  | numberFloat ha h => cases ha
  | numbers ha hb => cases ha

/-- Whatever equals an integer equals all that does. -/
theorem of_numbers {i : Int} (ha : a.asInt? = some i)
    (hb : b.asInt? = some i ∨ ∃ y, b = .float y ∧ y.sameInt i = true) : Equated a b := by
  obtain hb | ⟨y, rfl, hy⟩ := hb
  · exact .numbers ha hb
  · exact .numberFloat ha hy

theorem trans (hab : Equated a b) (hbc : Equated b c) : Equated a c := by
  cases hab with
  | null | text | surrogates | bytes | group => exact hbc
  | moment h =>
      cases hbc with
      | moment h' => exact .moment (Moment.same_iff.2 ((Moment.same_iff.1 h).trans (Moment.same_iff.1 h')))
      | numberFloat hb h' => cases hb
      | numbers hb hc => cases hb
  | hook =>
      cases hbc with
      | hook => exact .hook _ _ _
      | numberFloat hb h' => cases hb
      | numbers hb hc => cases hb
  | builder =>
      cases hbc with
      | builder => exact .builder _ _ _
      | numberFloat hb h' => cases hb
      | numbers hb hc => cases hb
  | floats h =>
      obtain ⟨z, rfl, hz⟩ | ⟨i, hc, hi⟩ := hbc.of_float
      · exact .floats (Number.Binary64.same_trans h hz)
      · exact .floatNumber hc (Number.Binary64.sameInt_of_same h hi)
  | floatNumber hb h =>
      obtain hc | ⟨z, rfl, hz⟩ := hbc.of_number hb
      · exact .floatNumber hc h
      · exact .floats (Number.Binary64.same_of_sameInt h hz)
  | numberFloat ha h =>
      obtain ⟨z, rfl, hz⟩ | ⟨i, hc, hi⟩ := hbc.of_float
      · exact .numberFloat ha (Number.Binary64.sameInt_of_same (Number.Binary64.same_symm hz) h)
      · exact .numbers ha (Number.Binary64.sameInt_unique hi h ▸ hc)
  | numbers ha hb => exact of_numbers ha (hbc.of_number hb)

end Equated

/-! ### Values that hold others -/

mutual

/-- No set in the value holds anything twice, and no mapping has a key twice. -/
def IsProper : Value → Prop
  | .list items => AreProper items
  | .tuple items => AreProper items
  | .set items => AreProper items ∧ items.Pairwise fun x y => x.alike y = false
  | .map entries => AreProperEntries entries ∧ entries.Pairwise fun x y => x.1.alike y.1 = false
  | .raw content bindings => IsProper content ∧ AreProper bindings
  | .statement sql bindings _ => IsProper sql ∧ AreProper bindings
  | .result rows rowCount columns lastInsertId affectedRows =>
    AreProper rows ∧ IsProper rowCount ∧ AreProper columns ∧ IsProper lastInsertId ∧ IsProper affectedRows
  | _ => True

def AreProper : List Value → Prop
  | [] => True
  | x :: rest => IsProper x ∧ AreProper rest

def AreProperEntries : List (Value × Value) → Prop
  | [] => True
  | (key, x) :: rest => IsProper key ∧ IsProper x ∧ AreProperEntries rest

end

/-- Equality goes back to the value, and on from it. -/
structure Fair (x : Value) : Prop where
  symm : ∀ y, x.same y = true → y.same x = true
  trans : ∀ y z, x.same y = true → y.same z = true → x.same z = true

theorem eq_of_isSameNaN {x y : Value} (h : isSameNaN x y = true) : x = y := by
  unfold isSameNaN at h
  split at h
  · rw [Bool.and_eq_true, beq_iff_eq] at h
    rw [h.1]
  · cases h

namespace Fair

variable {x y z : Value}

theorem alike_symm (hx : x.Fair) (h : x.alike y = true) : y.alike x = true := by
  rcases Bool.or_eq_true _ _ ▸ h with hnan | hsame
  · exact eq_of_isSameNaN hnan ▸ h
  · exact Bool.or_eq_true _ _ ▸ .inr (hx.symm y hsame)

theorem alike_trans (hx : x.Fair) (hxy : x.alike y = true) (hyz : y.alike z = true) : x.alike z = true := by
  rcases Bool.or_eq_true _ _ ▸ hxy with hnan | hsame
  · exact eq_of_isSameNaN hnan ▸ hyz
  · rcases Bool.or_eq_true _ _ ▸ hyz with hnan' | hsame'
    · exact eq_of_isSameNaN hnan' ▸ hxy
    · exact Bool.or_eq_true _ _ ▸ .inr (hx.trans y z hsame hsame')

end Fair

/-! ### Collections -/

section Collections

variable {x y : Value}

theorem alikeMembers_iff {xs ys : List Value} :
    alikeMembers xs ys = true ↔ ∀ x ∈ xs, ∃ y ∈ ys, x.alike y = true := by
  induction xs with
  | nil => exact iff_of_true rfl fun _ h => nomatch h
  | cons x xs ih =>
      rw [List.forall_mem_cons, ← ih, alikeMembers, Bool.and_eq_true, List.any_eq_true]
      rfl

/-- Entries with equal keys and equal values. -/
def AlikeEntry (e f : Value × Value) : Prop := e.1.alike f.1 = true ∧ e.2.alike f.2 = true

theorem alikeEntries_iff {xs ys : List (Value × Value)} :
    alikeEntries xs ys = true ↔ ∀ e ∈ xs, ∃ f ∈ ys, AlikeEntry e f := by
  induction xs with
  | nil => exact iff_of_true rfl fun _ h => nomatch h
  | cons e xs ih =>
      rw [List.forall_mem_cons, ← ih, alikeEntries, Bool.and_eq_true, List.any_eq_true]
      simp only [AlikeEntry, alike, Bool.and_eq_true]

theorem alikeItems_iff {xs ys : List Value} :
    alikeItems xs ys = true ↔ List.Forall₂ (fun x y => x.alike y = true) xs ys := by
  induction xs generalizing ys with
  | nil =>
      cases ys with
      | nil => exact iff_of_true rfl .nil
      | cons y ys => exact iff_of_false Bool.false_ne_true fun h => nomatch h
  | cons x xs ih =>
      cases ys with
      | nil => exact iff_of_false Bool.false_ne_true fun h => nomatch h
      | cons y ys =>
          rw [List.forall₂_cons, ← ih, alikeItems, Bool.and_eq_true]
          rfl

/-- Where all of a list find something in another one that is no longer, and no two of them the same, all of the other
list are found. -/
theorem exists_of_covers {α : Type} {r : α → α → Prop} {xs ys : List α} (hlength : ys.length ≤ xs.length)
    (happart : xs.Pairwise fun x x' => ∀ y ∈ ys, r x y → ¬ r x' y) (hcovers : ∀ x ∈ xs, ∃ y ∈ ys, r x y) :
    ∀ y ∈ ys, ∃ x ∈ xs, r x y := by
  induction xs generalizing ys with
  | nil =>
      rw [List.eq_nil_of_length_eq_zero (Nat.le_zero.1 hlength)]
      exact fun _ h => nomatch h
  | cons x xs ih =>
      obtain ⟨y, hy, hxy⟩ := hcovers x List.mem_cons_self
      obtain ⟨front, back, rfl⟩ := List.append_of_mem hy
      obtain ⟨hx, hxs⟩ := List.pairwise_cons.1 happart
      have hsub : ∀ z ∈ front ++ back, z ∈ front ++ y :: back := fun z hz =>
        List.mem_append.2 ((List.mem_append.1 hz).imp_right (List.mem_cons_of_mem y))
      intro z hz
      have hrest : ∀ z ∈ front ++ back, ∃ x ∈ xs, r x z := by
        refine ih ?_ (hxs.imp fun h z hz => h z (hsub z hz)) fun x' hx' => ?_
        · simp only [List.length_append, List.length_cons] at hlength ⊢
          omega
        · obtain ⟨z, hz, hxz⟩ := hcovers x' (List.mem_cons_of_mem _ hx')
          refine ⟨z, ?_, hxz⟩
          rcases List.mem_append.1 hz with hfront | hback
          · exact List.mem_append_left _ hfront
          · rcases List.mem_cons.1 hback with rfl | hback
            · exact absurd hxz (hx x' hx' z hy hxy)
            · exact List.mem_append_right _ hback
      rcases List.mem_append.1 hz with hfront | hback
      · obtain ⟨x', hx', h⟩ := hrest z (List.mem_append_left _ hfront)
        exact ⟨x', List.mem_cons_of_mem _ hx', h⟩
      · rcases List.mem_cons.1 hback with rfl | hback
        · exact ⟨x, List.mem_cons_self, hxy⟩
        · obtain ⟨x', hx', h⟩ := hrest z (List.mem_append_right _ hback)
          exact ⟨x', List.mem_cons_of_mem _ hx', h⟩

variable {xs ys zs : List Value}

theorem alikeItems_symm (hxs : ∀ x ∈ xs, Fair x) (h : alikeItems xs ys = true) : alikeItems ys xs = true := by
  rw [alikeItems_iff] at h ⊢
  induction h with
  | nil => exact .nil
  | cons hxy _ ih =>
      obtain ⟨hx, hxs⟩ := List.forall_mem_cons.1 hxs
      exact .cons (hx.alike_symm hxy) (ih hxs)

theorem alikeItems_trans (hxs : ∀ x ∈ xs, Fair x) (hxy : alikeItems xs ys = true) (hyz : alikeItems ys zs = true) :
    alikeItems xs zs = true := by
  rw [alikeItems_iff] at hxy hyz ⊢
  induction hxy generalizing zs with
  | nil =>
      cases hyz
      exact .nil
  | cons hxy _ ih =>
      obtain ⟨hx, hxs⟩ := List.forall_mem_cons.1 hxs
      cases hyz with
      | cons hyz hrest => exact .cons (hx.alike_trans hxy hyz) (ih hxs hrest)

theorem alikeMembers_symm (hxs : ∀ x ∈ xs, Fair x) (happart : xs.Pairwise fun x y => x.alike y = false)
    (hlength : xs.length = ys.length) (h : alikeMembers xs ys = true) : alikeMembers ys xs = true := by
  rw [alikeMembers_iff] at h ⊢
  have hpairs : xs.Pairwise fun x x' => ∀ y ∈ ys, x.alike y = true → ¬ x'.alike y = true := by
    refine happart.imp_of_mem fun {x x'} hx hx' hfalse y _ hxy hxy' => ?_
    have halike := (hxs x hx).alike_trans hxy ((hxs x' hx').alike_symm hxy')
    rw [hfalse] at halike
    cases halike
  intro y hy
  obtain ⟨x, hx, hxy⟩ := exists_of_covers hlength.ge hpairs h y hy
  exact ⟨x, hx, (hxs x hx).alike_symm hxy⟩

theorem alikeMembers_trans (hxs : ∀ x ∈ xs, Fair x) (hxy : alikeMembers xs ys = true)
    (hyz : alikeMembers ys zs = true) : alikeMembers xs zs = true := by
  rw [alikeMembers_iff] at hxy hyz ⊢
  intro x hx
  obtain ⟨y, hy, hxy⟩ := hxy x hx
  obtain ⟨z, hz, hyz⟩ := hyz y hy
  exact ⟨z, hz, (hxs x hx).alike_trans hxy hyz⟩

variable {es fs gs : List (Value × Value)}

theorem alikeEntries_symm (hes : ∀ e ∈ es, e.1.Fair ∧ e.2.Fair) (happart : es.Pairwise fun e f => e.1.alike f.1 = false)
    (hlength : es.length = fs.length) (h : alikeEntries es fs = true) : alikeEntries fs es = true := by
  rw [alikeEntries_iff] at h ⊢
  have hpairs : es.Pairwise fun e e' => ∀ f ∈ fs, AlikeEntry e f → ¬ AlikeEntry e' f := by
    refine happart.imp_of_mem fun {e e'} he he' hfalse f _ hef hef' => ?_
    have halike := (hes e he).1.alike_trans hef.1 ((hes e' he').1.alike_symm hef'.1)
    rw [hfalse] at halike
    cases halike
  intro f hf
  obtain ⟨e, he, hef⟩ := exists_of_covers hlength.ge hpairs h f hf
  exact ⟨e, he, (hes e he).1.alike_symm hef.1, (hes e he).2.alike_symm hef.2⟩

theorem alikeEntries_trans (hes : ∀ e ∈ es, e.1.Fair ∧ e.2.Fair) (hef : alikeEntries es fs = true)
    (hfg : alikeEntries fs gs = true) : alikeEntries es gs = true := by
  rw [alikeEntries_iff] at hef hfg ⊢
  intro e he
  obtain ⟨f, hf, hef⟩ := hef e he
  obtain ⟨g, hg, hfg⟩ := hfg f hf
  exact ⟨g, hg, (hes e he).1.alike_trans hef.1 hfg.1, (hes e he).2.alike_trans hef.2 hfg.2⟩

end Collections

/-- What equals a value that holds no others holds none either. -/
theorem Equated.same_eq {x y : Value} (h : Equated x y) (z : Value) : y.same z = sameScalar y z := by
  cases h with
  | floatNumber hb _ => cases y <;> first | rfl | cases hb
  | numbers _ hb => cases y <;> first | rfl | cases hb
  | _ => rfl

theorem fair_of_scalar {x : Value} (h : ∀ y, x.same y = sameScalar x y) : x.Fair where
  symm y hxy := by
    have hequated := sameScalar_iff.1 ((h y).symm.trans hxy)
    rw [hequated.same_eq]
    exact sameScalar_iff.2 hequated.symm
  trans y z hxy hyz := by
    have hequated := sameScalar_iff.1 ((h y).symm.trans hxy)
    rw [hequated.same_eq] at hyz
    rw [h]
    exact sameScalar_iff.2 (hequated.trans (sameScalar_iff.1 hyz))

/-- Sequences are compared item by item. -/
theorem fair_of_items {x : Value} {xs : List Value} {wrap : List Value → Value} (hx : x = wrap xs)
    (hxs : ∀ x ∈ xs, Fair x) (hsame : ∀ xs ys, (wrap xs).same (wrap ys) = alikeItems xs ys)
    (hwraps : ∀ xs y, (wrap xs).same y = true → ∃ ys, y = wrap ys) : x.Fair where
  symm y hxy := by
    subst hx
    obtain ⟨ys, rfl⟩ := hwraps _ _ hxy
    rw [hsame] at hxy ⊢
    exact alikeItems_symm hxs hxy
  trans y z hxy hyz := by
    subst hx
    obtain ⟨ys, rfl⟩ := hwraps _ _ hxy
    obtain ⟨zs, rfl⟩ := hwraps _ _ hyz
    rw [hsame] at hxy hyz ⊢
    exact alikeItems_trans hxs hxy hyz

theorem exists_of_same_list {xs : List Value} {y : Value} (h : (list xs).same y = true) : ∃ ys, y = list ys := by
  cases y with
  | list ys => exact ⟨ys, rfl⟩
  | _ => cases h

theorem exists_of_same_tuple {xs : List Value} {y : Value} (h : (tuple xs).same y = true) : ∃ ys, y = tuple ys := by
  cases y with
  | tuple ys => exact ⟨ys, rfl⟩
  | _ => cases h

theorem same_set_iff {xs : List Value} {y : Value} : (set xs).same y = true ↔
    ∃ ys, y = set ys ∧ xs.length = ys.length ∧ alikeMembers xs ys = true := by
  constructor
  · intro h
    cases y with
    | set ys =>
        have h : (xs.length == ys.length && alikeMembers xs ys) = true := h
        rw [Bool.and_eq_true, beq_iff_eq] at h
        exact ⟨ys, rfl, h⟩
    | _ => cases h
  · rintro ⟨ys, rfl, hlength, hmembers⟩
    change (xs.length == ys.length && alikeMembers xs ys) = true
    rw [hmembers, hlength, beq_self_eq_true]
    rfl

theorem same_map_iff {es : List (Value × Value)} {y : Value} : (map es).same y = true ↔
    ∃ fs, y = map fs ∧ es.length = fs.length ∧ alikeEntries es fs = true := by
  constructor
  · intro h
    cases y with
    | map fs =>
        have h : (es.length == fs.length && alikeEntries es fs) = true := h
        rw [Bool.and_eq_true, beq_iff_eq] at h
        exact ⟨fs, rfl, h⟩
    | _ => cases h
  · rintro ⟨fs, rfl, hlength, hentries⟩
    change (es.length == fs.length && alikeEntries es fs) = true
    rw [hentries, hlength, beq_self_eq_true]
    rfl

theorem same_raw_iff {content y : Value} {bindings : List Value} : (raw content bindings).same y = true ↔
    ∃ content' bindings', y = raw content' bindings' ∧ content.alike content' = true ∧
      alikeItems bindings bindings' = true := by
  constructor
  · intro h
    cases y with
    | raw content' bindings' => exact ⟨content', bindings', rfl, (Bool.and_eq_true _ _).mp h⟩
    | _ => cases h
  · rintro ⟨content', bindings', rfl, hcontent, hbindings⟩
    exact (Bool.and_eq_true _ _).mpr ⟨hcontent, hbindings⟩

theorem same_statement_iff {sql y : Value} {bindings : List Value} {hasEscapes : Bool} :
    (statement sql bindings hasEscapes).same y = true ↔
      ∃ sql' bindings' hasEscapes', y = statement sql' bindings' hasEscapes' ∧ sql.alike sql' = true ∧
        alikeItems bindings bindings' = true := by
  constructor
  · intro h
    cases y with
    | statement sql' bindings' hasEscapes' =>
        exact ⟨sql', bindings', hasEscapes', rfl, (Bool.and_eq_true _ _).mp h⟩
    | _ => cases h
  · rintro ⟨sql', bindings', hasEscapes', rfl, hsql, hbindings⟩
    exact (Bool.and_eq_true _ _).mpr ⟨hsql, hbindings⟩

theorem same_result_iff {rows columns : List Value} {count id affected y : Value} :
    (result rows count columns id affected).same y = true ↔ ∃ rows' count' columns' id' affected',
      y = result rows' count' columns' id' affected' ∧ alikeItems rows rows' = true ∧ count.alike count' = true ∧
        alikeItems columns columns' = true ∧ id.alike id' = true ∧ affected.alike affected' = true := by
  constructor
  · intro h
    cases y with
    | result rows' count' columns' id' affected' =>
        have h : (alikeItems rows rows' && count.alike count' && alikeItems columns columns' && id.alike id' &&
          affected.alike affected') = true := h
        simp only [Bool.and_eq_true] at h
        obtain ⟨⟨⟨⟨hrows, hcount⟩, hcolumns⟩, hid⟩, haffected⟩ := h
        exact ⟨rows', count', columns', id', affected', rfl, hrows, hcount, hcolumns, hid, haffected⟩
    | _ => cases h
  · rintro ⟨rows', count', columns', id', affected', rfl, hrows, hcount, hcolumns, hid, haffected⟩
    change (alikeItems rows rows' && count.alike count' && alikeItems columns columns' && id.alike id' &&
      affected.alike affected') = true
    rw [hrows, hcount, hcolumns, hid, haffected]
    rfl

mutual

/-- Equality is symmetric and transitive, as far as collections are what they should be. -/
theorem IsProper.fair {x : Value} (h : x.IsProper) : x.Fair := by
  cases x with
  | list items => exact fair_of_items rfl (AreProper.fair h) (fun _ _ => rfl) fun _ _ => exists_of_same_list
  | tuple items => exact fair_of_items rfl (AreProper.fair h) (fun _ _ => rfl) fun _ _ => exists_of_same_tuple
  | set items =>
      have hitems := AreProper.fair h.1
      refine ⟨fun y hxy => ?_, fun y z hxy hyz => ?_⟩
      · obtain ⟨ys, rfl, hlength, hmembers⟩ := same_set_iff.1 hxy
        exact same_set_iff.2 ⟨_, rfl, hlength.symm, alikeMembers_symm hitems h.2 hlength hmembers⟩
      · obtain ⟨ys, rfl, hlength, hmembers⟩ := same_set_iff.1 hxy
        obtain ⟨zs, rfl, hlength', hmembers'⟩ := same_set_iff.1 hyz
        exact same_set_iff.2 ⟨_, rfl, hlength.trans hlength', alikeMembers_trans hitems hmembers hmembers'⟩
  | map entries =>
      have hentries := AreProperEntries.fair h.1
      refine ⟨fun y hxy => ?_, fun y z hxy hyz => ?_⟩
      · obtain ⟨fs, rfl, hlength, halike⟩ := same_map_iff.1 hxy
        exact same_map_iff.2 ⟨_, rfl, hlength.symm, alikeEntries_symm hentries h.2 hlength halike⟩
      · obtain ⟨fs, rfl, hlength, halike⟩ := same_map_iff.1 hxy
        obtain ⟨gs, rfl, hlength', halike'⟩ := same_map_iff.1 hyz
        exact same_map_iff.2 ⟨_, rfl, hlength.trans hlength', alikeEntries_trans hentries halike halike'⟩
  | raw content bindings =>
      have hcontent := h.1.fair
      have hbindings := AreProper.fair h.2
      refine ⟨fun y hxy => ?_, fun y z hxy hyz => ?_⟩
      · obtain ⟨_, _, rfl, hc, hb⟩ := same_raw_iff.1 hxy
        exact same_raw_iff.2 ⟨_, _, rfl, hcontent.alike_symm hc, alikeItems_symm hbindings hb⟩
      · obtain ⟨_, _, rfl, hc, hb⟩ := same_raw_iff.1 hxy
        obtain ⟨_, _, rfl, hc', hb'⟩ := same_raw_iff.1 hyz
        exact same_raw_iff.2 ⟨_, _, rfl, hcontent.alike_trans hc hc', alikeItems_trans hbindings hb hb'⟩
  | statement sql bindings _ =>
      have hsql := h.1.fair
      have hbindings := AreProper.fair h.2
      refine ⟨fun y hxy => ?_, fun y z hxy hyz => ?_⟩
      · obtain ⟨_, _, _, rfl, hs, hb⟩ := same_statement_iff.1 hxy
        exact same_statement_iff.2 ⟨_, _, _, rfl, hsql.alike_symm hs, alikeItems_symm hbindings hb⟩
      · obtain ⟨_, _, _, rfl, hs, hb⟩ := same_statement_iff.1 hxy
        obtain ⟨_, _, _, rfl, hs', hb'⟩ := same_statement_iff.1 hyz
        exact same_statement_iff.2 ⟨_, _, _, rfl, hsql.alike_trans hs hs', alikeItems_trans hbindings hb hb'⟩
  | result rows count columns id affected =>
      have hrows := AreProper.fair h.1
      have hcount := h.2.1.fair
      have hcolumns := AreProper.fair h.2.2.1
      have hid := h.2.2.2.1.fair
      have haffected := h.2.2.2.2.fair
      refine ⟨fun y hxy => ?_, fun y z hxy hyz => ?_⟩
      · obtain ⟨_, _, _, _, _, rfl, hr, hn, hc, hi, ha⟩ := same_result_iff.1 hxy
        exact same_result_iff.2 ⟨_, _, _, _, _, rfl, alikeItems_symm hrows hr, hcount.alike_symm hn,
          alikeItems_symm hcolumns hc, hid.alike_symm hi, haffected.alike_symm ha⟩
      · obtain ⟨_, _, _, _, _, rfl, hr, hn, hc, hi, ha⟩ := same_result_iff.1 hxy
        obtain ⟨_, _, _, _, _, rfl, hr', hn', hc', hi', ha'⟩ := same_result_iff.1 hyz
        exact same_result_iff.2 ⟨_, _, _, _, _, rfl, alikeItems_trans hrows hr hr', hcount.alike_trans hn hn',
          alikeItems_trans hcolumns hc hc', hid.alike_trans hi hi', haffected.alike_trans ha ha'⟩
  | _ => exact fair_of_scalar fun _ => rfl
termination_by structural x

theorem AreProper.fair : ∀ {xs : List Value}, AreProper xs → ∀ x ∈ xs, x.Fair
  | [], _ => fun _ hx => nomatch hx
  | _ :: _, h => List.forall_mem_cons.2 ⟨h.1.fair, AreProper.fair h.2⟩

theorem AreProperEntries.fair : ∀ {es : List (Value × Value)}, AreProperEntries es → ∀ e ∈ es, e.1.Fair ∧ e.2.Fair
  | [], _ => fun _ he => nomatch he
  | (_, _) :: _, h => List.forall_mem_cons.2 ⟨⟨h.1.fair, h.2.1.fair⟩, AreProperEntries.fair h.2.2⟩

end

/-- No number can be called. -/
theorem isCallable_of_asInt? {v : Value} {i : Int} (h : v.asInt? = some i) : v.isCallable = false := by
  cases v with
  | int | bool => rfl
  | _ => cases h

/-- What equals something that can be called can be called, too, and nothing else does. -/
theorem isCallable_eq_of_same {x y : Value} (h : x.same y = true) : x.isCallable = y.isCallable := by
  have hscalar : sameScalar x y = true → x.isCallable = y.isCallable := by
    intro h
    cases sameScalar_iff.1 h with
    | floatNumber hb _ => exact (isCallable_of_asInt? hb).symm
    | numberFloat ha _ => exact isCallable_of_asInt? ha
    | numbers ha hb => exact (isCallable_of_asInt? ha).trans (isCallable_of_asInt? hb).symm
    | _ => rfl
  cases x with
  | list | tuple | set | map | raw | statement | result =>
      cases y with
      | group | hook | factory => cases h
      | _ => rfl
  | _ => exact hscalar h

end Value

end SqlBuilder
