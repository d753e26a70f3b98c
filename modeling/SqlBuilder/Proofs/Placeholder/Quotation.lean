import SqlBuilder.Proofs.Conversion

/-!
Quotations in any text, whether or not the quotes in it fit together. A quotation is given by its form alone, and the
characters that are placeholders by going from left to right: the longest quotation that begins at a character is
passed over, and a character at which none begins is a placeholder if it is a question mark. The cutting into tokens
finds the longest quotations, so it finds these placeholders and no other ones.
-/

namespace SqlBuilder

/-- What stands behind the opening mark of a quotation in which the mark is written twice. -/
inductive EndsDoubled (mark : Char) : List Char → Prop where
  | close : EndsDoubled mark [mark]
  | char {c : Char} {cs : List Char} (hc : c ≠ mark) (h : EndsDoubled mark cs) : EndsDoubled mark (c :: cs)
  | doubled {cs : List Char} (h : EndsDoubled mark cs) : EndsDoubled mark (mark :: mark :: cs)

/-- A quoted literal or identifier with its marks. -/
inductive IsQuotation : List Char → Prop where
  | literal {cs : List Char} (h : EndsDoubled '\'' cs) : IsQuotation ('\'' :: cs)
  | name {cs : List Char} (h : EndsDoubled '"' cs) : IsQuotation ('"' :: cs)
  | backticks {cs : List Char} (h : '`' ∉ cs) : IsQuotation ('`' :: (cs ++ ['`']))
  | brackets {cs : List Char} (h : ']' ∉ cs) : IsQuotation ('[' :: (cs ++ [']']))

/-- The mask tells which characters of a text are placeholders: the question marks outside of quotations. -/
inductive Masks : List Char → List Bool → Prop where
  | nil : Masks [] []
  | quoted {token rest : List Char} {mask : List Bool} (h : IsQuotation token)
      (hlongest : ∀ other, IsQuotation other → other <+: token ++ rest → other.length ≤ token.length)
      (hrest : Masks rest mask) : Masks (token ++ rest) (List.replicate token.length false ++ mask)
  | bare {c : Char} {rest : List Char} {mask : List Bool}
      (h : ∀ token, IsQuotation token → ¬ token <+: c :: rest) (hrest : Masks rest mask) :
      Masks (c :: rest) ((c == '?') :: mask)

/-- A placeholder is a question mark. -/
theorem Masks.eq_mark {cs : List Char} {mask : List Bool} (h : Masks cs mask) :
    ∀ place ∈ cs.zip mask, place.2 = true → place.1 = '?' := by
  induction h with
  | nil => simp
  | @quoted token rest mask _ _ _ ih =>
      rw [List.zip_append (List.length_replicate).symm]
      intro place hplace hmarked
      rcases List.mem_append.1 hplace with hquoted | hplace
      · have hfalse := List.eq_of_mem_replicate (List.of_mem_zip hquoted).2
        rw [hmarked] at hfalse
        cases hfalse
      · exact ih place hplace hmarked
  | @bare c rest mask _ _ ih =>
      intro place hplace hmarked
      rcases List.mem_cons.1 hplace with rfl | hplace
      · exact beq_iff_eq.1 hmarked
      · exact ih place hplace hmarked

theorem Masks.length_eq {cs : List Char} {mask : List Bool} (h : Masks cs mask) : cs.length = mask.length := by
  induction h with
  | nil => rfl
  | quoted _ _ _ ih => simp [ih]
  | bare _ _ ih => simp [ih]

namespace SqlToken

/-! ### The longest quotation -/

theorem endsDoubled_of_closeDoubled? {mark : Char} {cs body behind : List Char}
    (h : closeDoubled? mark cs = some (body, behind)) : EndsDoubled mark body := by
  fun_induction closeDoubled? mark cs generalizing body behind with
  | case1 => cases h
  | case2 c rest hc ih =>
      obtain ⟨⟨body', behind'⟩, hr, he⟩ := Option.map_eq_some_iff.1 h
      cases he
      exact .char hc (ih hr)
  | case3 c hc =>
      cases h
      rw [not_not.1 hc]
      exact .close
  | case4 c hc d later hd =>
      cases h
      rw [not_not.1 hc]
      exact .close
  | case5 c hc d later hd body' behind' hr ih =>
      cases h
      rw [not_not.1 hc, not_not.1 hd]
      exact .doubled (ih hr)
  | case6 c hc =>
      cases h
      rw [not_not.1 hc]
      exact .close

/-- Whatever ends a quotation, the token ends there or later. -/
theorem closeDoubled?_append_of_ends {mark : Char} {cs : List Char} (h : EndsDoubled mark cs) (rest : List Char) :
    ∃ body behind, closeDoubled? mark (cs ++ rest) = some (body, behind) ∧ cs.length ≤ body.length := by
  induction h with
  | close =>
      rw [List.singleton_append, closeDoubled?_mark]
      split
      · exact ⟨_, _, rfl, Nat.le_refl _⟩
      · split
        · exact ⟨_, _, rfl, Nat.le_refl _⟩
        · split
          · exact ⟨_, _, rfl, by simp⟩
          · exact ⟨_, _, rfl, Nat.le_refl _⟩
  | @char c cs hc h ih =>
      obtain ⟨body, behind, hclose, hlength⟩ := ih
      refine ⟨c :: body, behind, ?_, Nat.succ_le_succ hlength⟩
      rw [List.cons_append, closeDoubled?_of_ne hc, hclose]
      rfl
  | @doubled cs h ih =>
      obtain ⟨body, behind, hclose, hlength⟩ := ih
      refine ⟨mark :: mark :: body, behind, ?_, Nat.succ_le_succ (Nat.succ_le_succ hlength)⟩
      have hmark := closeDoubled?_mark mark (mark :: (cs ++ rest))
      rw [List.cons_append, List.cons_append, hmark]
      simp [hclose]

theorem eq_append_of_closeFirst? {mark : Char} {cs body behind : List Char}
    (h : closeFirst? mark cs = some (body, behind)) : ∃ front, body = front ++ [mark] ∧ mark ∉ front := by
  fun_induction closeFirst? mark cs generalizing body behind with
  | case1 => cases h
  | case2 => cases h; exact ⟨[], rfl, List.not_mem_nil⟩
  | case3 c rest hc ih =>
      obtain ⟨⟨body', behind'⟩, hr, he⟩ := Option.map_eq_some_iff.1 h
      cases he
      obtain ⟨front, rfl, hfront⟩ := ih hr
      exact ⟨c :: front, rfl, List.not_mem_cons_of_ne_of_not_mem (Ne.symm hc) hfront⟩

theorem closeFirst?_append_of_not_mem {mark : Char} {cs : List Char} (h : mark ∉ cs) (rest : List Char) :
    closeFirst? mark (cs ++ mark :: rest) = some (cs ++ [mark], rest) := by
  induction cs with
  | nil => simp [closeFirst?]
  | cons c cs ih =>
      obtain ⟨hc, hcs⟩ := List.ne_and_not_mem_of_not_mem_cons h
      rw [List.cons_append, closeFirst?, if_neg (Ne.symm hc), ih hcs]
      rfl

/-- A quotation has the form of a token. -/
theorem isQuotation_of_close? {c : Char} {cs body behind : List Char} (h : close? c cs = some (body, behind)) :
    IsQuotation (c :: body) := by
  unfold close? at h
  split_ifs at h with hquote hbacktick hbracket
  · have hends := endsDoubled_of_closeDoubled? h
    simp only [Bool.or_eq_true, decide_eq_true_eq] at hquote
    rcases hquote with rfl | rfl
    · exact .literal hends
    · exact .name hends
  · subst hbacktick
    obtain ⟨front, rfl, hfront⟩ := eq_append_of_closeFirst? h
    exact .backticks hfront
  · subst hbracket
    obtain ⟨front, rfl, hfront⟩ := eq_append_of_closeFirst? h
    exact .brackets hfront

/-- Where a quotation begins, a token is found that is no shorter. -/
theorem close?_of_isQuotation {token : List Char} (h : IsQuotation token) (rest : List Char) :
    ∃ c cs body behind, token = c :: cs ∧ close? c (cs ++ rest) = some (body, behind) ∧
      cs.length ≤ body.length := by
  cases h with
  | @literal cs h =>
      obtain ⟨body, behind, hclose, hlength⟩ := closeDoubled?_append_of_ends h rest
      exact ⟨'\'', cs, body, behind, rfl, hclose, hlength⟩
  | @name cs h =>
      obtain ⟨body, behind, hclose, hlength⟩ := closeDoubled?_append_of_ends h rest
      exact ⟨'"', cs, body, behind, rfl, hclose, hlength⟩
  | @backticks cs h =>
      refine ⟨'`', cs ++ ['`'], cs ++ ['`'], rest, rfl, ?_, Nat.le_refl _⟩
      rw [List.append_assoc, List.singleton_append]
      exact closeFirst?_append_of_not_mem h rest
  | @brackets cs h =>
      refine ⟨'[', cs ++ [']'], cs ++ [']'], rest, rfl, ?_, Nat.le_refl _⟩
      rw [List.append_assoc, List.singleton_append]
      exact closeFirst?_append_of_not_mem h rest

/-- No quotation that begins where a token does is longer. -/
theorem length_le_of_isQuotation {c : Char} {cs body behind other : List Char}
    (h : close? c cs = some (body, behind)) (hother : IsQuotation other) (hstart : other <+: c :: cs) :
    other.length ≤ (c :: body).length := by
  obtain ⟨rest, hrest⟩ := hstart
  obtain ⟨d, ds, body', behind', rfl, hclose, hlength⟩ := close?_of_isQuotation hother rest
  rw [List.cons_append] at hrest
  obtain ⟨rfl, rfl⟩ := List.cons.inj hrest
  rw [h] at hclose
  cases hclose
  exact Nat.succ_le_succ hlength

/-- Where no token is found no quotation begins. -/
theorem not_prefix_of_close?_eq_none {c : Char} {cs token : List Char} (h : close? c cs = none)
    (htoken : IsQuotation token) : ¬ token <+: c :: cs := by
  rintro ⟨rest, hrest⟩
  obtain ⟨d, ds, body, behind, rfl, hclose, -⟩ := close?_of_isQuotation htoken rest
  rw [List.cons_append] at hrest
  obtain ⟨rfl, rfl⟩ := List.cons.inj hrest
  rw [h] at hclose
  cases hclose

/-! ### The mask of a text -/

def chars : SqlToken → List Char
  | quoted chars => chars
  | placeholder => ['?']
  | plain c => [c]

/-- Which characters of a token are placeholders. -/
def mask : SqlToken → List Bool
  | quoted chars => List.replicate chars.length false
  | placeholder => [true]
  | plain _ => [false]

theorem length_chars (t : SqlToken) : t.chars.length = t.mask.length := by
  cases t <;> simp [chars, mask]

/-- The token of a character that stands alone. -/
def single (c : Char) : SqlToken := if c = '?' then .placeholder else .plain c

theorem chars_single (c : Char) : (single c).chars = [c] := by
  unfold single
  split
  · rename_i hc
    rw [hc]
    rfl
  · rfl

theorem mask_single (c : Char) : (single c).mask = [c == '?'] := by
  unfold single
  split
  · rename_i hc
    rw [hc]
    rfl
  · rename_i hc
    rw [beq_eq_false_iff_ne.2 hc]
    rfl

theorem ofChars_of_close? {c : Char} {cs body behind : List Char} (h : close? c cs = some (body, behind)) :
    ofChars (c :: cs) = .quoted (c :: body) :: ofChars behind := Reading.ofChars_quoted h

theorem ofChars_of_close?_eq_none {c : Char} {cs : List Char} (h : close? c cs = none) :
    ofChars (c :: cs) = single c :: ofChars cs := by
  rw [ofChars]
  split
  · rename_i body behind h'
    rw [h] at h'
    cases h'
  · rfl

/-- The tokens hold the whole text. -/
theorem flatMap_chars (cs : List Char) : (ofChars cs).flatMap chars = cs := by
  fun_induction ofChars cs with
  | case1 => rfl
  | case2 c rest body behind h ih =>
      rw [List.flatMap_cons, ih]
      exact congrArg (c :: ·) (close?_append h)
  | case3 c rest h ih =>
      change (single c :: ofChars rest).flatMap chars = _
      rw [List.flatMap_cons, ih, chars_single]
      rfl

/-- The placeholders of a text are those that the cutting into tokens finds. -/
theorem masks_ofChars (cs : List Char) : Masks cs ((ofChars cs).flatMap mask) := by
  fun_induction ofChars cs with
  | case1 => exact .nil
  | case2 c rest body behind h ih =>
      have hlongest : ∀ other, IsQuotation other → other <+: c :: rest → other.length ≤ (c :: body).length :=
        fun other => length_le_of_isQuotation h
      have htext := close?_append h
      subst htext
      exact .quoted (isQuotation_of_close? h) hlongest ih
  | case3 c rest h ih =>
      change Masks _ ((single c :: ofChars rest).flatMap mask)
      rw [List.flatMap_cons, mask_single]
      exact .bare (fun token htoken => not_prefix_of_close?_eq_none h htoken) ih

end SqlToken

open SqlToken

/-- A text has one mask. -/
theorem Masks.eq_mask {cs : List Char} {m : List Bool} (h : Masks cs m) :
    m = (ofChars cs).flatMap SqlToken.mask := by
  induction h with
  | nil => rw [ofChars]; rfl
  | @quoted token rest m htoken hlongest hrest ih =>
      obtain ⟨c, cs, body, behind, rfl, hclose, hlength⟩ := close?_of_isQuotation htoken rest
      have hsame : cs = body := by
        have hbody : c :: body <+: (c :: cs) ++ rest := ⟨behind, congrArg (c :: ·) (close?_append hclose)⟩
        have hshorter := hlongest _ (isQuotation_of_close? hclose) hbody
        have hstart := List.prefix_of_prefix_length_le (List.prefix_append (c :: cs) rest) hbody
          (Nat.succ_le_succ hlength)
        exact (List.cons.inj (hstart.eq_of_length_le hshorter)).2
      subst hsame
      have hbehind := List.append_cancel_left (close?_append hclose)
      subst hbehind
      rw [List.cons_append, ofChars_of_close? hclose, List.flatMap_cons, ih]
      rfl
  | @bare c rest m hnone hrest ih =>
      have hclose : close? c rest = none := by
        rw [Option.eq_none_iff_forall_not_mem]
        rintro ⟨body, behind⟩ hclose
        exact hnone _ (isQuotation_of_close? hclose) ⟨behind, congrArg (c :: ·) (close?_append hclose)⟩
      rw [ofChars_of_close?_eq_none hclose, List.flatMap_cons, mask_single, ih]
      rfl

/-- A mark that nothing closes opens no quotation, and a doubled one that nothing closes ends one. -/
example : (ofChars "'a''?".toList).flatMap SqlToken.mask = [false, false, false, false, true] := by decide +kernel

end SqlBuilder
