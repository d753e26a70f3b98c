import SqlBuilder.Writing
import SqlBuilder.Proofs.Outline
import Mathlib.Data.List.Basic

/-!
Literals are solid: what stands in place of a placeholder begins and ends with characters that are no blanks. Texts
and collections stand between marks, numbers are digits with signs and a point. Only fragments of SQL and statements
are written as they are, whatever surrounds them.
-/

namespace SqlBuilder

namespace Text

theorem opens_iff_head? {cs : List Char} : Opens cs ↔ (cs.head?.map isBlank) = some false := by
  cases cs with
  | nil => simp [Opens]
  | cons c rest => simp [Opens]

instance (cs : List Char) : Decidable (Opens cs) := decidable_of_iff _ opens_iff_head?.symm

theorem Opens.append {cs : List Char} (h : Opens cs) (ds : List Char) : Opens (cs ++ ds) := by
  obtain ⟨c, rest, rfl, hc⟩ := h
  exact ⟨c, rest ++ ds, rfl, hc⟩

/-- The text begins with a character that is no blank. -/
def Leads (s : String) : Prop := Opens s.toList

/-- The text ends with a character that is no blank. -/
def Ends (s : String) : Prop := Opens s.toList.reverse

/-- There are no blanks around the text, which is not empty. -/
def Solid (s : String) : Prop := IsSolid s.toList

instance (s : String) : Decidable (Leads s) := inferInstanceAs (Decidable (Opens s.toList))

instance (s : String) : Decidable (Ends s) := inferInstanceAs (Decidable (Opens s.toList.reverse))

theorem Leads.append {s : String} (h : Leads s) (t : String) : Leads (s ++ t) := by
  unfold Leads
  rw [String.toList_append]
  exact Opens.append h t.toList

theorem Leads.solid {s t : String} (hs : Leads s) (ht : Ends t) : Solid (s ++ t) := by
  refine ⟨hs.append t, ?_⟩
  rw [String.toList_append, List.reverse_append]
  exact Opens.append ht s.toList.reverse

/-- A text between two characters that are no blanks. -/
theorem solid_ofList {first last : Char} (hfirst : isBlank first = false) (hlast : isBlank last = false)
    (inside : List Char) : Solid (String.ofList (first :: inside ++ [last])) := by
  unfold Solid
  rw [String.toList_ofList]
  exact IsSolid.of_ends hfirst hlast inside

theorem solid_of_forall {s : String} (hne : s.toList ≠ []) (h : ∀ c ∈ s.toList, isBlank c = false) : Solid s :=
  IsSolid.of_forall hne h

theorem isBlank_of_isDigit {c : Char} (h : c.isDigit = true) : isBlank c = false := by
  have hrange : 48 ≤ c.toNat ∧ c.toNat ≤ 57 := by
    simp only [Char.isDigit, Bool.and_eq_true, decide_eq_true_eq] at h
    exact ⟨h.1, h.2⟩
  simp only [isBlank, CharClass.has, blanks, List.any_cons, List.any_nil, Bool.or_false, Bool.or_eq_false_iff,
    Bool.and_eq_false_iff, decide_eq_false_iff_not]
  omega

theorem isBlank_of_mem_toDigits {c : Char} {n : Nat} (h : c ∈ Nat.toDigits 10 n) : isBlank c = false :=
  isBlank_of_isDigit (Nat.isDigit_of_mem_toDigits (by decide) (by decide) h)

theorem solid_toString_nat (n : Nat) : Solid (toString n) := by
  have hchars : (toString n).toList = Nat.toDigits 10 n := Nat.toList_repr
  refine solid_of_forall ?_ fun c hc => isBlank_of_mem_toDigits (hchars ▸ hc)
  rw [hchars]
  exact Nat.toDigits_ne_nil

theorem solid_toString_int (i : Int) : Solid (toString i) := by
  rw [Int.toString_eq_repr, Int.repr_eq_if]
  split
  · exact solid_toString_nat i.toNat
  · exact Leads.solid (by decide) (solid_toString_nat (-i).toNat).2

theorem solid_quoted (s : String) : Solid (quoted s) := by
  have hmark : isBlank (quoteMark s.toList) = false := by
    unfold quoteMark
    split <;> decide
  exact solid_ofList hmark hmark _

theorem solid_quotedBytes (bytes : List UInt8) : Solid (quotedBytes bytes) := by
  have hmark : isBlank (quoteMark (bytes.map fun b => Char.ofNat b.toNat)) = false := by
    unfold quoteMark
    split <;> decide
  exact solid_ofList (by decide) hmark (_ :: _)

end Text

/-! ### Numbers -/

namespace Number

open Text

/-- No blank is among the characters. -/
def Blankless (cs : List Char) : Prop := ∀ c ∈ cs, isBlank c = false

theorem blankless_nil : Blankless [] := fun _ hc => absurd hc List.not_mem_nil

theorem Blankless.cons {c : Char} {cs : List Char} (hc : isBlank c = false) (h : Blankless cs) :
    Blankless (c :: cs) := by
  intro d hd
  rcases List.mem_cons.1 hd with rfl | hd
  · exact hc
  · exact h d hd

theorem Blankless.append {cs ds : List Char} (h : Blankless cs) (h' : Blankless ds) : Blankless (cs ++ ds) := by
  intro c hc
  rcases List.mem_append.1 hc with hc | hc
  · exact h c hc
  · exact h' c hc

theorem Blankless.of_subset {cs ds : List Char} (h : Blankless cs) (hsub : ∀ c ∈ ds, c ∈ cs) : Blankless ds :=
  fun c hc => h c (hsub c hc)

theorem blankless_toDigits (n : Nat) : Blankless (Nat.toDigits 10 n) := fun _ hc => isBlank_of_mem_toDigits hc

theorem blankless_replicate_zero (n : Nat) : Blankless (List.replicate n '0') := by
  intro c hc
  rw [List.eq_of_mem_replicate hc]
  decide

theorem blankless_trimZeros {digits : List Char} (h : Blankless digits) : Blankless (trimZeros digits) := by
  refine h.of_subset fun c hc => ?_
  unfold trimZeros at hc
  exact List.mem_reverse.1 ((List.dropWhile_sublist _).subset (List.mem_reverse.1 hc))

theorem blankless_exponentText (exponent : Int) : Blankless (exponentText exponent) := by
  have hdigits := blankless_toDigits exponent.natAbs
  unfold exponentText
  refine Blankless.cons ?_ ?_
  · split <;> decide
  · split
    · exact hdigits.cons (by decide)
    · exact hdigits

theorem blankless_placed {digits : List Char} (h : Blankless digits) (point : Int) :
    Blankless (placed digits point) := by
  have htake : ∀ n, Blankless (digits.take n) := fun n => h.of_subset fun _ hc => List.mem_of_mem_take hc
  have hdrop : ∀ n, Blankless (digits.drop n) := fun n => h.of_subset fun _ hc => List.mem_of_mem_drop hc
  unfold placed
  split
  · split
    · exact (((blankless_replicate_zero _).append h).cons (by decide)).cons (by decide)
    · refine ((htake _).append (blankless_replicate_zero _)).append (Blankless.cons (by decide) ?_)
      split
      · exact blankless_nil.cons (by decide)
      · exact hdrop _
  · refine ((htake 1).append ?_).append ((blankless_exponentText _).cons (by decide))
    split
    · exact blankless_nil
    · exact (hdrop 1).cons (by decide)

theorem placed_ne_nil (digits : List Char) (point : Int) : placed digits point ≠ [] := by
  unfold placed
  split
  · split <;> simp
  · simp

theorem solid_text (x : Binary64) : Solid x.text := by
  have hsign : Blankless (if x.isNegative then ['-'] else []) := by
    split
    · exact blankless_nil.cons (by decide)
    · exact blankless_nil
  have hsolid : ∀ cs, cs ≠ [] → Blankless cs →
      Solid (String.ofList ((if x.isNegative then ['-'] else []) ++ cs)) := by
    intro cs hne hcs
    refine solid_of_forall ?_ ?_
    · rw [String.toList_ofList]
      simp [hne]
    · rw [String.toList_ofList]
      exact hsign.append hcs
  unfold Binary64.text
  cases x.magnitude with
  | notANumber => exact (⟨by decide, by decide⟩ : Solid "nan")
  | infinite =>
      refine hsolid ['i', 'n', 'f'] (by decide) ?_
      exact ((blankless_nil.cons (by decide)).cons (by decide)).cons (by decide)
  | finite m e =>
      cases m with
      | zero =>
          refine hsolid ['0', '.', '0'] (by decide) ?_
          exact ((blankless_nil.cons (by decide)).cons (by decide)).cons (by decide)
      | succ m => exact hsolid _ (placed_ne_nil _ _) (blankless_placed (blankless_trimZeros (blankless_toDigits _)) _)

end Number

/-! ### Values -/

theorem Moment.solid_shown (m : Moment) : Text.Solid m.shown := by
  unfold Moment.shown
  split
  · exact Text.Leads.solid (Text.Leads.append (by decide) _) (by decide)
  · exact Text.Leads.solid (Text.Leads.append (by decide) _) (by decide)

theorem solid_quoteLiteral (s : String) : Text.Solid (quoteLiteral s) :=
  Text.Leads.solid (Text.Leads.append (by decide) _) (by decide)

namespace Value

/-- What is neither a text, a sequence nor a fragment of SQL is shown between marks, or as a number or a word. -/
theorem solid_shown (v : Value) : Text.Solid v.shown := by
  have hwrapped : ∀ front middle back : String, Text.Leads front → Text.Ends back →
      Text.Solid (front ++ middle ++ back) := fun front middle back hfront hback =>
    Text.Leads.solid (hfront.append middle) hback
  have hword : ∀ s : String, Text.Leads s → Text.Ends s → Text.Solid s := fun s hfront hback => ⟨hfront, hback⟩
  cases v with
  | null => exact hword _ (by decide) (by decide)
  | bool b => cases b <;> exact hword _ (by decide) (by decide)
  | int i => exact Text.solid_toString_int i
  | float x => exact Number.solid_text x
  | text s => exact Text.solid_quoted s
  | surrogates s => exact Text.solid_quoted s
  | bytes content => exact Text.solid_quotedBytes content
  | moment m => exact m.solid_shown
  | list items => exact hwrapped _ _ _ (by decide) (by decide)
  | tuple items => exact hwrapped _ _ _ (by decide) (by decide)
  | set items =>
      unfold shown
      split
      · exact hword _ (by decide) (by decide)
      · exact hwrapped _ _ _ (by decide) (by decide)
  | map entries => exact hwrapped _ _ _ (by decide) (by decide)
  | raw content bindings =>
      refine Text.Leads.solid ?_ (by decide)
      iterate 3 apply Text.Leads.append
      decide
  | statement sql bindings hasEscapes =>
      refine Text.Leads.solid ?_ (by decide)
      iterate 3 apply Text.Leads.append
      decide
  | result rows rowCount columns lastInsertId affectedRows =>
      refine Text.Leads.solid ?_ (by decide)
      iterate 9 apply Text.Leads.append
      decide
  | group id => exact hword "<group>" (by decide) (by decide)
  | hook name id => exact hword "<hook>" (by decide) (by decide)
  | builder kind id => exact hword "<builder>" (by decide) (by decide)
  | factory columns => exact hword "<factory>" (by decide) (by decide)
  | record cells => exact hword "<record>" (by decide) (by decide)
  | transaction status answer => exact hword "<transaction>" (by decide) (by decide)
  | piece kind fields => exact hword "<piece>" (by decide) (by decide)
  | occasion => exact hword "<occasion>" (by decide) (by decide)
  | endless => exact hword "..." (by decide) (by decide)

/-- The literal of anything but a fragment of SQL and a statement is solid. -/
theorem solid_literal {v : Value} {hasEscapes : Bool} {s : String} (h : v.literal? hasEscapes = some s)
    (hraw : v.isRaw = false) (hstatement : ∀ sql bindings inner, v ≠ .statement sql bindings inner) :
    Text.Solid s := by
  have hshown : v.shown = s → Text.Solid s := fun hs => hs ▸ v.solid_shown
  cases v with
  | raw content bindings => exact absurd hraw (by simp [isRaw])
  | statement sql bindings inner => exact absurd rfl (hstatement sql bindings inner)
  | null =>
      rw [← Option.some.inj h]
      exact ⟨by decide, by decide⟩
  | bool b =>
      rw [← Option.some.inj h]
      cases b <;> exact ⟨by decide, by decide⟩
  | text t =>
      rw [← Option.some.inj h]
      exact solid_quoteLiteral _
  | list items =>
      obtain ⟨parts, -, rfl⟩ := Option.map_eq_some_iff.1 h
      exact solid_quoteLiteral _
  | tuple items =>
      obtain ⟨parts, -, rfl⟩ := Option.map_eq_some_iff.1 h
      exact solid_quoteLiteral _
  | _ => exact hshown (Option.some.inj h)

end Value

end SqlBuilder
