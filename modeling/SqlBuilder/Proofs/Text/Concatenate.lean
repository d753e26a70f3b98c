import SqlBuilder.Proofs.Text.Solid
import Mathlib.Data.List.TakeWhile

/-!
The text of clauses in a row. A text without the blanks around it is empty or solid, so the clauses of a statement
are its pieces without blanks around them, in their order and with one space between two that hold something. A piece
more is its words more, with one space in front of them.
-/

namespace SqlBuilder.Text

/-! ### Text without the blanks around it -/

theorem opens_stripLeftChars {cs : List Char} (hne : stripLeftChars cs ≠ []) : Opens (stripLeftChars cs) := by
  obtain ⟨c, rest, hcs⟩ := List.exists_cons_of_ne_nil hne
  refine ⟨c, rest, hcs, ?_⟩
  have hfirst := List.head?_dropWhile_not isBlank cs
  rw [stripLeftChars] at hcs
  rw [hcs] at hfirst
  exact hfirst

/-- A text without the blanks around it is empty or solid. -/
theorem isSolid_stripChars {cs : List Char} (hne : stripChars cs ≠ []) : IsSolid (stripChars cs) := by
  have hrest : stripLeftChars (stripLeftChars cs).reverse ≠ [] := mt List.reverse_eq_nil_iff.2 hne
  refine ⟨?_, ?_⟩
  · have hfront : stripChars cs <+: stripLeftChars cs := by
      rw [← List.reverse_suffix, stripChars, List.reverse_reverse]
      exact List.dropWhile_suffix isBlank
    obtain ⟨c, rest, hcs⟩ := List.exists_cons_of_ne_nil hne
    obtain ⟨behind, hbehind⟩ := hfront
    rw [hcs, List.cons_append] at hbehind
    obtain ⟨d, later, hd, hblank⟩ := @opens_stripLeftChars cs (hbehind ▸ List.cons_ne_nil c _)
    rw [← hbehind] at hd
    injection hd with hcd
    exact ⟨c, rest, hcs, hcd ▸ hblank⟩
  · rw [stripChars, List.reverse_reverse]
    exact opens_stripLeftChars hrest

theorem stripChars_of_isSolid {cs : List Char} (h : IsSolid cs) : stripChars cs = cs := by
  have hleft := stripLeftChars_eq_self h.1 []
  have hright := stripLeftChars_eq_self h.2 []
  rw [List.append_nil] at hleft hright
  rw [stripChars, hleft, hright, List.reverse_reverse]

theorem strip_empty : strip "" = "" := rfl

theorem solid_strip {s : String} (hne : strip s ≠ "") : Solid (strip s) := by
  have hchars : (strip s).toList = stripChars s.toList := String.toList_ofList
  rw [Solid, hchars]
  refine isSolid_stripChars fun hnil => hne ?_
  rw [strip, hnil]

theorem Solid.strip_eq {s : String} (h : Solid s) : strip s = s := by
  rw [strip, stripChars_of_isSolid h, String.ofList_toList]

theorem Solid.ne_empty {s : String} (h : Solid s) : s ≠ "" := by
  rintro rfl
  obtain ⟨⟨c, rest, hnil, -⟩, -⟩ := h
  cases hnil

theorem strip_strip (s : String) : strip (strip s) = strip s := by
  by_cases h : strip s = ""
  · rw [h, strip_empty]
  · exact (solid_strip h).strip_eq

/-- Two solid texts with a space in between are a solid text. -/
theorem Solid.spaced {s t : String} (hs : Solid s) (ht : Solid t) : Solid (s ++ " " ++ t) :=
  (Leads.append hs.1 " ").solid ht.2

theorem strip_space_append (s : String) : strip (" " ++ s) = strip s := by
  rw [strip, String.toList_append]
  rfl

theorem Solid.strip_append_space {s : String} (h : Solid s) : strip (s ++ " ") = s := by
  have hleft : stripLeftChars (s.toList ++ [' ']) = s.toList ++ [' '] := stripLeftChars_eq_self h.1 _
  have hright : stripLeftChars (' ' :: s.toList.reverse) = s.toList.reverse := by
    have hself := stripLeftChars_eq_self h.2 []
    rw [List.append_nil] at hself
    exact hself
  have hspace : " ".toList = [' '] := rfl
  rw [strip, String.toList_append, hspace, stripChars, hleft, List.reverse_append, List.reverse_singleton,
    List.singleton_append, hright, List.reverse_reverse, String.ofList_toList]

/-- Nothing but blanks is in the text. -/
def isBlankText (s : String) : Bool := s.toList.all isBlank

/-- The second text is the first one without the blanks around it. -/
def Strips (s t : String) : Prop :=
  ∃ front back, s.toList = front ++ t.toList ++ back ∧ (∀ c ∈ front ++ back, isBlank c = true) ∧ (t = "" ∨ Solid t)

theorem stripChars_eq_nil_iff {cs : List Char} : stripChars cs = [] ↔ ∀ c ∈ cs, isBlank c = true := by
  rw [stripChars, List.reverse_eq_nil_iff, stripLeftChars, List.dropWhile_eq_nil_iff]
  constructor
  · intro h
    -- what is left behind the blanks in front would begin with a character that is no blank
    have hnone : stripLeftChars cs = [] := by
      by_contra hne
      obtain ⟨c, rest, hcs, hc⟩ := opens_stripLeftChars hne
      have hblank := h c (List.mem_reverse.2 (hcs ▸ List.mem_cons_self))
      rw [hc] at hblank
      cases hblank
    exact List.dropWhile_eq_nil_iff.1 hnone
  · intro h c hc
    exact h c ((List.dropWhile_sublist _).subset (List.mem_reverse.1 hc))

theorem strip_eq_empty_iff {s : String} : strip s = "" ↔ isBlankText s = true := by
  rw [strip, isBlankText, List.all_eq_true, ← stripChars_eq_nil_iff, ← String.toList_eq_nil_iff, String.toList_ofList]

theorem exists_stripLeftChars (cs : List Char) :
    ∃ front, cs = front ++ stripLeftChars cs ∧ ∀ c ∈ front, isBlank c = true :=
  ⟨cs.takeWhile isBlank, List.takeWhile_append_dropWhile.symm, fun _ hc => List.mem_takeWhile_imp hc⟩

theorem strips_strip (s : String) : Strips s (strip s) := by
  obtain ⟨front, hfront, hblank⟩ := exists_stripLeftChars s.toList
  obtain ⟨back, hback, hblank'⟩ := exists_stripLeftChars (stripLeftChars s.toList).reverse
  refine ⟨front, back.reverse, ?_, ?_, ?_⟩
  · have hchars : (strip s).toList = stripChars s.toList := String.toList_ofList
    rw [hchars, stripChars, List.append_assoc, ← List.reverse_append, ← hback, List.reverse_reverse]
    exact hfront
  · intro c hc
    rcases List.mem_append.1 hc with hc | hc
    · exact hblank c hc
    · exact hblank' c (List.mem_reverse.1 hc)
  · by_cases hempty : strip s = ""
    · exact .inl hempty
    · exact .inr (solid_strip hempty)

theorem strip_eq_iff {s t : String} : strip s = t ↔ Strips s t := by
  constructor
  · rintro rfl
    exact strips_strip s
  · rintro ⟨front, back, hs, hblank, rfl | hsolid⟩
    · rw [strip_eq_empty_iff, isBlankText, List.all_eq_true, hs]
      simpa using hblank
    · have hfront : stripLeftChars s.toList = t.toList ++ back := by
        rw [hs, List.append_assoc, stripLeftChars, List.dropWhile_append_of_pos fun c hc =>
          hblank c (List.mem_append_left _ hc)]
        exact stripLeftChars_eq_self hsolid.1 back
      have hback : stripLeftChars (t.toList ++ back).reverse = t.toList.reverse := by
        rw [List.reverse_append, stripLeftChars, List.dropWhile_append_of_pos fun c hc =>
          hblank c (List.mem_append_right _ (List.mem_reverse.1 hc))]
        have hself := stripLeftChars_eq_self hsolid.2 []
        rw [List.append_nil] at hself
        exact hself
      rw [strip, stripChars, hfront, hback, List.reverse_reverse, String.ofList_toList]

/-! ### Words with spaces in front -/

/-- The pieces that hold something, without the blanks around them. -/
def words (pieces : List String) : List String := (pieces.map strip).filter (· ≠ "")

def spaced : List String → String
  | [] => ""
  | word :: rest => " " ++ word ++ spaced rest

theorem words_eq (pieces : List String) :
    words pieces = (pieces.filter fun piece => !isBlankText piece).map strip := by
  have hblank : ∀ piece, decide (strip piece ≠ "") = !isBlankText piece := by
    intro piece
    rw [Bool.eq_iff_iff, decide_eq_true_iff, Bool.not_eq_true', ne_eq, strip_eq_empty_iff, Bool.not_eq_true]
  rw [words, List.filter_map]
  exact congrArg (List.map strip) (List.filter_congr fun piece _ => hblank piece)

theorem words_append (front back : List String) : words (front ++ back) = words front ++ words back := by
  simp [words]

theorem words_empty : words [""] = [] := rfl

theorem words_singleton {piece : String} (h : strip piece ≠ "") : words [piece] = [strip piece] := by
  simp [words, h]

theorem words_cons (piece : String) (rest : List String) : words (piece :: rest) = words [piece] ++ words rest :=
  words_append [piece] rest

theorem spaced_append (front back : List String) : spaced (front ++ back) = spaced front ++ spaced back := by
  induction front with
  | nil => exact String.empty_append.symm
  | cons word front ih =>
      rw [List.cons_append, spaced, ih, spaced]
      exact String.append_assoc.symm

theorem joined_cons (word : String) (rest : List String) : joined " " (word :: rest) = word ++ spaced rest := by
  induction rest generalizing word with
  | nil => exact String.append_empty.symm
  | cons next rest ih =>
      change word ++ " " ++ joined " " (next :: rest) = _
      rw [ih, spaced, String.append_assoc, String.append_assoc]

/-- A piece put behind others adds its words. -/
theorem joined_words_appendPiece (sql piece : String) (rest : List String) :
    joined " " (words (appendPiece sql piece :: rest)) = joined " " (words (sql :: piece :: rest)) := by
  rw [words_cons, words_cons sql, words_cons piece]
  by_cases hsql : strip sql = ""
  · have hwords : words [appendPiece sql piece] = words [piece] := by
      have hstrip : strip (appendPiece sql piece) = strip piece := by
        rw [appendPiece, hsql, String.empty_append, strip_space_append, strip_strip]
      simp only [words, List.map_cons, List.map_nil, hstrip]
    have hnone : words [sql] = [] := by simp [words, hsql]
    rw [hwords, hnone, List.nil_append]
  · have hsolid := solid_strip hsql
    by_cases hpiece : strip piece = ""
    · have hstrip : strip (appendPiece sql piece) = strip sql := by
        rw [appendPiece, hpiece, String.append_empty, hsolid.strip_append_space]
      have hnone : words [piece] = [] := by simp [words, hpiece]
      have hwords : words [appendPiece sql piece] = words [sql] := by
        simp only [words, List.map_cons, List.map_nil, hstrip]
      rw [hwords, hnone, List.nil_append]
    · have hboth := hsolid.spaced (solid_strip hpiece)
      have hwords : words [appendPiece sql piece] = [strip sql ++ " " ++ strip piece] := by
        rw [words_singleton]
        · exact congrArg ([·]) hboth.strip_eq
        · rw [appendPiece, hboth.strip_eq]
          exact hboth.ne_empty
      rw [hwords, words_singleton hsql, words_singleton hpiece, List.singleton_append, List.singleton_append,
        List.singleton_append, joined_cons, joined_cons, spaced, String.append_assoc, String.append_assoc,
        String.append_assoc]

/-- The pieces of a statement make up their words with single spaces in between. -/
theorem concatenate_eq_joined (pieces : List String) : concatenate pieces = joined " " (words pieces) := by
  have hfold : ∀ sql, strip (pieces.foldl appendPiece sql) = joined " " (words (sql :: pieces)) := by
    induction pieces with
    | nil =>
        intro sql
        by_cases hsql : strip sql = ""
        · simp [words, hsql, joined]
        · rw [words_singleton hsql]
          rfl
    | cons piece pieces ih =>
        intro sql
        rw [List.foldl_cons, ih, joined_words_appendPiece]
  rw [concatenate, hfold, words_cons, words_empty, List.nil_append]

theorem strip_concatenate (pieces : List String) : strip (concatenate pieces) = concatenate pieces := strip_strip _

/-- Texts with a space in front of each tell what they are with single spaces in between. -/
theorem joined_eq_of_spaced_eq {front back : List String} (h : spaced front = spaced back) :
    joined " " front = joined " " back := by
  have hne : ∀ word rest, spaced (word :: rest) ≠ "" := by
    intro word rest hempty
    have hlength := congrArg String.length hempty
    rw [spaced, String.length_append, String.length_append] at hlength
    have hspace : " ".length = 1 := rfl
    have hnone : "".length = 0 := rfl
    omega
  cases front with
  | nil =>
      cases back with
      | nil => rfl
      | cons word rest => exact absurd h.symm (hne word rest)
  | cons word rest =>
      cases back with
      | nil => exact absurd h (hne word rest)
      | cons word' rest' =>
          rw [spaced, spaced, String.append_assoc, String.append_assoc, String.append_right_inj] at h
          rw [joined_cons, joined_cons, h]

/-- Pieces put together have their words in a row. -/
theorem spaced_words_concatenate (pieces : List String) :
    spaced (words [concatenate pieces]) = spaced (words pieces) := by
  rw [concatenate_eq_joined]
  cases hwords : words pieces with
  | nil => rw [joined, words_empty]
  | cons word rest =>
      have hstrip : strip (joined " " (word :: rest)) = joined " " (word :: rest) := by
        rw [← hwords, ← concatenate_eq_joined, strip_concatenate]
      have hmem : word ∈ words pieces := hwords ▸ List.mem_cons_self
      have hword : word ≠ "" := of_decide_eq_true (List.mem_filter.1 hmem).2
      have hne : joined " " (word :: rest) ≠ "" := by
        rw [joined_cons]
        exact fun hempty => hword (String.append_eq_empty_iff.1 hempty).1
      rw [words_singleton (hstrip.symm ▸ hne), hstrip, spaced, spaced, spaced, joined_cons, String.append_empty,
        String.append_assoc]

/-- It does not matter which pieces are put together first. -/
theorem concatenate_flatten (parts : List (List String)) :
    concatenate (parts.map concatenate) = concatenate parts.flatten := by
  have hspaced : spaced (words (parts.map concatenate)) = spaced (words parts.flatten) := by
    induction parts with
    | nil => rfl
    | cons pieces parts ih =>
        rw [List.map_cons, words_cons, spaced_append, spaced_words_concatenate, ih, List.flatten_cons, words_append,
          spaced_append]
  rw [concatenate_eq_joined, concatenate_eq_joined, joined_eq_of_spaced_eq hspaced]

/-- A piece more stands where it is put, with one space in front of it. -/
theorem concatenate_insert {front : List String} (hfront : words front ≠ []) (back : List String) {piece : String}
    (hpiece : strip piece ≠ "") :
    concatenate (front ++ "" :: back) = joined " " (words front) ++ spaced (words back) ∧
      concatenate (front ++ piece :: back) =
        joined " " (words front) ++ (" " ++ strip piece) ++ spaced (words back) := by
  obtain ⟨word, rest, hwords⟩ := List.exists_cons_of_ne_nil hfront
  rw [concatenate_eq_joined, concatenate_eq_joined, words_append, words_append, words_cons "", words_cons piece,
    words_empty, List.nil_append, words_singleton hpiece, hwords, List.cons_append, List.cons_append, joined_cons,
    joined_cons, joined_cons, spaced_append, spaced_append, List.singleton_append, spaced]
  refine ⟨(String.append_assoc ..).symm, ?_⟩
  simp only [String.append_assoc]

end SqlBuilder.Text
