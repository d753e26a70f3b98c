import SqlBuilder.Proofs.Placeholder.Quotation

/-!
The conversion of placeholders on every text. The placeholders are the question marks outside of quotations, numbered
from left to right, and all else is kept, but for percent signs that are written twice where a database module reads
directives. Such a module gets the text back from what it reads, with a reference in place of each placeholder, and
every reference leads to the value that belongs there.
-/

namespace SqlBuilder

namespace Text

theorem splitFirstChars_append {mark : Char} {front : List Char} (h : mark ∉ front) (behind : List Char) :
    splitFirstChars mark (front ++ mark :: behind) = (front, some behind) := by
  induction front with
  | nil => simp [splitFirstChars]
  | cons c front ih =>
      obtain ⟨hc, hfront⟩ := List.ne_and_not_mem_of_not_mem_cons h
      rw [List.cons_append, splitFirstChars, if_neg (Ne.symm hc), ih hfront]

theorem eq_append_of_splitFirstChars {mark : Char} {cs front behind : List Char}
    (h : splitFirstChars mark cs = (front, some behind)) : cs = front ++ mark :: behind := by
  induction cs generalizing front with
  | nil => cases h
  | cons c cs ih =>
      rw [splitFirstChars] at h
      split at h
      · rename_i hc
        cases h
        rw [hc]
        rfl
      · injection h with hfront hbehind
        rw [← hfront, List.cons_append, ← ih (Prod.ext rfl hbehind)]

end Text

/-- Where a placeholder takes its value from. -/
inductive Reference where
  /-- From the next place. -/
  | next
  /-- From the place with that number, the first being one. -/
  | place (number : Nat)
  | name (name : String)
  deriving DecidableEq

namespace Reference

/-- The reference of the placeholder with the given number, the first being one. -/
def ofNumber : PlaceholderStyle → Nat → Reference
  | .qmark, _ => next
  | .format, _ => next
  | .numeric, number => place number
  | .pyformat, number => name ("p" ++ toString number)
  | .named, number => name ("p" ++ toString number)

/-- What a module that reads directives makes of a text: its characters, with references among them. A percent sign
that is written twice stands for itself, and any other one must begin a directive. -/
def read? (cs : List Char) : Option (List (Char ⊕ Reference)) :=
  match cs with
  | [] => some []
  | c :: rest =>
    if c ≠ '%' then (read? rest).map (.inl c :: ·)
    else match rest with
      | '%' :: later => (read? later).map (.inl '%' :: ·)
      | 's' :: later => (read? later).map (.inr next :: ·)
      | '(' :: later => match _h : Text.splitFirstChars ')' later with
        | (chars, some ('s' :: behind)) => (read? behind).map (.inr (name (String.ofList chars)) :: ·)
        | _ => none
      | _ => none
termination_by cs.length
decreasing_by
  · simp
  · simp only [List.length_cons]
    omega
  · simp only [List.length_cons]
    omega
  · have := congrArg List.length (Text.eq_append_of_splitFirstChars _h)
    simp only [List.length_append, List.length_cons] at *
    omega

end Reference

/-- The value that a reference leads to, from the placeholder with that many ones in front of it. -/
def Parameters.refer? (p : Parameters) (ordinal : Nat) : Reference → Option Value
  | .next => match p with
    | positional values => values[ordinal]?
    | named _ => none
  | .place number => match p with
    | positional values => if number = 0 then none else values[number - 1]?
    | named _ => none
  | .name name => match p with
    | positional _ => none
    | named values => (values.find? fun entry => entry.1 = name).map (·.2)

namespace PlaceholderStyle

/-- The reference that a module with the style finds in a placeholder. -/
def reference? : PlaceholderStyle → List Char → Option Reference
  | qmark, ['?'] => some .next
  | format, ['%', 's'] => some .next
  | numeric, ':' :: cs => if cs.all Char.isDigit then some (.place (Nat.ofDigitChars 10 cs 0)) else none
  | named, ':' :: cs => some (.name (String.ofList cs))
  | pyformat, '%' :: '(' :: cs => match Text.splitFirstChars ')' cs with
    | (chars, some ['s']) => some (.name (String.ofList chars))
    | _ => none
  | _, _ => none

/-- A character that is no placeholder in writing. Modules that read directives get percent signs twice. -/
def kept : PlaceholderStyle → Char → List Char
  | format, c => if c = '%' then ['%', '%'] else [c]
  | pyformat, c => if c = '%' then ['%', '%'] else [c]
  | _, c => [c]

/-- The text with placeholders where the mask tells, numbered on from the given number. -/
def replaced (style : PlaceholderStyle) : Nat → List (Char × Bool) → List Char
  | _, [] => []
  | number, (_, true) :: rest => (style.placeholder (number + 1)).toList ++ style.replaced (number + 1) rest
  | number, (c, false) :: rest => style.kept c ++ style.replaced number rest

/-- The text with references where the mask tells, for placeholders that are numbered on from the given number. -/
def referred (style : PlaceholderStyle) : Nat → List (Char × Bool) → List (Char ⊕ Reference)
  | _, [] => []
  | number, (_, true) :: rest => .inr (.ofNumber style (number + 1)) :: style.referred (number + 1) rest
  | number, (c, false) :: rest => .inl c :: style.referred number rest

variable (style : PlaceholderStyle)

/-! ### The text with its placeholders -/

theorem keep_eq_flatMap (cs : List Char) : style.keep cs = cs.flatMap style.kept := by
  cases style with
  | format => rfl
  | pyformat => rfl
  | _ => exact (List.flatMap_singleton' cs).symm

theorem replaced_quoted (number : Nat) (cs : List Char) (rest : List (Char × Bool)) :
    style.replaced number (cs.zip (List.replicate cs.length false) ++ rest) =
      style.keep cs ++ style.replaced number rest := by
  rw [keep_eq_flatMap]
  induction cs with
  | nil => rfl
  | cons c cs ih =>
      rw [List.length_cons, List.replicate_succ, List.zip_cons_cons, List.cons_append, replaced, ih,
        List.flatMap_cons, List.append_assoc]

/-- What is written of tokens has a placeholder where their mask tells. -/
theorem write_eq_replaced (number : Nat) (tokens : List SqlToken) :
    style.write number tokens =
      style.replaced number ((tokens.flatMap SqlToken.chars).zip (tokens.flatMap SqlToken.mask)) := by
  induction tokens generalizing number with
  | nil => rfl
  | cons token tokens ih =>
      rw [List.flatMap_cons, List.flatMap_cons, List.zip_append token.length_chars]
      cases token with
      | quoted chars => rw [write, ih, ← replaced_quoted]; rfl
      | placeholder => rw [write, ih]; rfl
      | plain c =>
          rw [write, ih, keep_eq_flatMap, List.flatMap_singleton]
          rfl

theorem toList_qmark (n : Nat) : (qmark.placeholder n).toList = ['?'] := show "?".toList = _ by decide

theorem toList_format (n : Nat) : (format.placeholder n).toList = ['%', 's'] := show "%s".toList = _ by decide

theorem replaced_qmark (number : Nat) {places : List (Char × Bool)}
    (h : ∀ place ∈ places, place.2 = true → place.1 = '?') :
    qmark.replaced number places = places.map Prod.fst := by
  induction places generalizing number with
  | nil => rfl
  | cons place places ih =>
      obtain ⟨c, isMarked⟩ := place
      have hrest := fun number => ih number fun place hplace => h place (List.mem_cons_of_mem _ hplace)
      cases isMarked with
      | true =>
          have hc : c = '?' := h (c, true) List.mem_cons_self rfl
          rw [replaced, hrest, hc, toList_qmark]
          rfl
      | false =>
          rw [replaced, hrest]
          rfl

/-- The conversion puts numbered placeholders where the mask tells. -/
theorem toList_convert {sql : String} {mask : List Bool} (h : Masks sql.toList mask) :
    (style.convert sql).toList = style.replaced 0 (sql.toList.zip mask) := by
  unfold convert
  split
  · rename_i hstyle
    rw [hstyle, replaced_qmark 0 h.eq_mark, List.map_fst_zip (Nat.le_of_eq h.length_eq)]
  · rw [String.toList_ofList, write_eq_replaced, SqlToken.flatMap_chars, h.eq_mask]

/-! ### References -/

theorem toList_toString (n : Nat) : (toString n).toList = Nat.toDigits 10 n := Nat.toList_repr

theorem not_mem_parameterName (n : Nat) : ')' ∉ 'p' :: Nat.toDigits 10 n := by
  intro hmem
  rcases List.mem_cons.1 hmem with hp | hdigit
  · cases hp
  · have hisDigit := Nat.isDigit_of_mem_toDigits (by decide) (by decide) hdigit
    cases hisDigit

theorem toList_pyformat (n : Nat) :
    (pyformat.placeholder n).toList = '%' :: '(' :: ('p' :: Nat.toDigits 10 n ++ ')' :: ['s']) := by
  simp only [placeholder, String.toList_append, toList_toString]
  rfl

/-- The name that a module reads is the name of the parameter. -/
theorem ofList_parameterName (n : Nat) : String.ofList ('p' :: Nat.toDigits 10 n) = "p" ++ toString n := by
  rw [← toList_toString, ← String.toList_inj, String.toList_ofList, String.toList_append]
  rfl

/-- A placeholder is written for the reference that has its number. -/
theorem reference?_placeholder (n : Nat) :
    style.reference? (style.placeholder n).toList = some (.ofNumber style n) := by
  cases style with
  | qmark => rw [toList_qmark]; rfl
  | format => rw [toList_format]; rfl
  | pyformat =>
      have hsplit := Text.splitFirstChars_append (not_mem_parameterName n) ['s']
      rw [toList_pyformat, reference?]
      simp only [hsplit, ofList_parameterName]
      rfl
  | numeric =>
      have hdigits : (Nat.toDigits 10 n).all Char.isDigit = true :=
        List.all_eq_true.2 fun c hc => Nat.isDigit_of_mem_toDigits (by decide) (by decide) hc
      have htext : (numeric.placeholder n).toList = ':' :: Nat.toDigits 10 n := by
        rw [placeholder, String.toList_append, toList_toString]
        rfl
      rw [htext, reference?, if_pos hdigits, Nat.ofDigitChars_ten_toDigits]
      rfl
  | named =>
      have htext : (named.placeholder n).toList = ':' :: 'p' :: Nat.toDigits 10 n := by
        rw [placeholder, String.toList_append, toList_toString]
        rfl
      rw [htext, reference?, ofList_parameterName]
      rfl

theorem parameterName_injective {m n : Nat} (h : "p" ++ toString m = "p" ++ toString n) : m = n := by
  have hdigits : Nat.toDigits 10 m = Nat.toDigits 10 n := by
    have hlists := congrArg String.toList h
    rw [String.toList_append, String.toList_append] at hlists
    have hrepr := List.append_cancel_left hlists
    rwa [toList_toString, toList_toString] at hrepr
  rw [← @Nat.ofDigitChars_ten_toDigits m, hdigits, Nat.ofDigitChars_ten_toDigits]

/-- Under the numbers behind the given one stand the values in their order. -/
theorem find?_numbered (start : Nat) (values : List Value) (place : Nat) :
    ((numbered start values).find? fun entry => entry.1 = "p" ++ toString (start + place + 1)).map (·.2) =
      values[place]? := by
  induction values generalizing start place with
  | nil => rfl
  | cons v values ih =>
      rw [numbered, List.find?_cons]
      cases place with
      | zero => simp
      | succ place =>
          have hname : decide ("p" ++ toString (start + 1) = "p" ++ toString (start + (place + 1) + 1)) = false := by
            refine decide_eq_false fun h => ?_
            have hnumber := parameterName_injective h
            omega
          rw [hname]
          have hrest := ih (start + 1) place
          rw [show start + 1 + place + 1 = start + (place + 1) + 1 by omega] at hrest
          exact hrest

/-- The reference of a placeholder leads to the value in its place. -/
theorem refer?_bind (values : List Value) (place : Nat) :
    (style.bind values).refer? place (.ofNumber style (place + 1)) = values[place]? := by
  have hnamed := find?_numbered 0 values place
  rw [Nat.zero_add] at hnamed
  cases style with
  | pyformat => exact hnamed
  | named => exact hnamed
  | _ => rfl

/-- The container of the values has under the reference of a placeholder the value in its place. -/
theorem refer?_reference? (values : List Value) (place : Nat) :
    (style.reference? (style.placeholder (place + 1)).toList).bind ((style.bind values).refer? place) =
      values[place]? := by
  rw [reference?_placeholder]
  exact style.refer?_bind values place

/-! ### Reading directives -/

variable {style}

theorem kept_of_directives (hstyle : style = .format ∨ style = .pyformat) (c : Char) :
    style.kept c = if c = '%' then ['%', '%'] else [c] := by
  obtain rfl | rfl := hstyle
  · rfl
  · rfl

theorem read?_kept (hstyle : style = .format ∨ style = .pyformat) (c : Char) (rest : List Char) :
    Reference.read? (style.kept c ++ rest) = (Reference.read? rest).map (.inl c :: ·) := by
  rw [kept_of_directives hstyle]
  by_cases hc : c = '%'
  · rw [if_pos hc, hc]
    change Reference.read? ('%' :: '%' :: rest) = _
    rw [Reference.read?]
    rfl
  · rw [if_neg hc, List.singleton_append, Reference.read?.eq_def]
    exact if_pos hc

theorem read?_placeholder (hstyle : style = .format ∨ style = .pyformat) (n : Nat) (rest : List Char) :
    Reference.read? ((style.placeholder n).toList ++ rest) =
      (Reference.read? rest).map (.inr (.ofNumber style n) :: ·) := by
  obtain rfl | rfl := hstyle
  · rw [toList_format]
    change Reference.read? ('%' :: 's' :: rest) = _
    rw [Reference.read?]
    rfl
  · have hsplit := Text.splitFirstChars_append (not_mem_parameterName n) ('s' :: rest)
    have htext : (pyformat.placeholder n).toList ++ rest =
        '%' :: '(' :: ('p' :: Nat.toDigits 10 n ++ ')' :: 's' :: rest) := by
      rw [toList_pyformat]
      simp
    rw [htext, Reference.read?]
    simp only [ne_eq, not_true_eq_false, if_false]
    split
    · rename_i chars behind h
      rw [hsplit] at h
      cases h
      rw [ofList_parameterName]
      rfl
    · rename_i h
      exact absurd hsplit (h _ _)

/-- A module that reads directives finds the characters and the references in their places. -/
theorem read?_replaced (hstyle : style = .format ∨ style = .pyformat) (number : Nat) (places : List (Char × Bool)) :
    Reference.read? (style.replaced number places) = some (style.referred number places) := by
  induction places generalizing number with
  | nil =>
      rw [replaced, Reference.read?]
      rfl
  | cons place places ih =>
      obtain ⟨c, isMarked⟩ := place
      cases isMarked with
      | true => rw [replaced, read?_placeholder hstyle, ih]; rfl
      | false => rw [replaced, read?_kept hstyle, ih]; rfl

variable (style)

theorem map_isRight_referred (number : Nat) (places : List (Char × Bool)) :
    (style.referred number places).map Sum.isRight = places.map Prod.snd := by
  induction places generalizing number with
  | nil => rfl
  | cons place places ih =>
      obtain ⟨c, isMarked⟩ := place
      cases isMarked with
      | true => exact congrArg (true :: ·) (ih _)
      | false => exact congrArg (false :: ·) (ih _)

theorem map_mark_referred (number : Nat) {places : List (Char × Bool)}
    (h : ∀ place ∈ places, place.2 = true → place.1 = '?') :
    (style.referred number places).map (Sum.elim id fun _ => '?') = places.map Prod.fst := by
  induction places generalizing number with
  | nil => rfl
  | cons place places ih =>
      obtain ⟨c, isMarked⟩ := place
      have hrest := fun number => ih number fun place hplace => h place (List.mem_cons_of_mem _ hplace)
      cases isMarked with
      | true =>
          have hc : c = '?' := h (c, true) List.mem_cons_self rfl
          rw [hc]
          exact congrArg ('?' :: ·) (hrest _)
      | false => exact congrArg (c :: ·) (hrest _)

/-- The references have the numbers of the placeholders, from left to right. -/
theorem filterMap_referred (number : Nat) (places : List (Char × Bool)) :
    (style.referred number places).filterMap Sum.getRight? =
      (List.range ((places.map Prod.snd).count true)).map fun k => .ofNumber style (number + k + 1) := by
  induction places generalizing number with
  | nil => rfl
  | cons place places ih =>
      obtain ⟨c, isMarked⟩ := place
      cases isMarked with
      | true =>
          have hfirst : Sum.getRight? (Sum.inr (α := Char) (Reference.ofNumber style (number + 1))) =
              some (Reference.ofNumber style (number + 1)) := rfl
          rw [referred, List.filterMap_cons_some hfirst, ih, List.map_cons, List.count_cons_self,
            List.range_succ_eq_map, List.map_cons, List.map_map]
          refine congrArg (_ :: ·) (List.map_congr_left fun k _ => ?_)
          rw [Function.comp_apply, Nat.succ_eq_add_one]
          congr 1
          omega
      | false =>
          rw [referred, List.filterMap_cons_none rfl, ih, List.map_cons, List.count_cons_of_ne (by simp)]

/-- The conversion puts a placeholder in the place of every question mark outside of quotations, numbered from left to
right, and keeps all else, but for percent signs that are doubled for modules that read directives. Such a module reads
the text as it was, with a reference in each of these places, and the reference that a module with the style finds in
the k-th placeholder leads to the k-th of the values. -/
theorem convert_exact (sql : String) : ∃ mask : List Bool,
    Masks sql.toList mask ∧ (∀ other, Masks sql.toList other → other = mask) ∧
    (style.convert sql).toList = style.replaced 0 (sql.toList.zip mask) ∧
    (style = .format ∨ style = .pyformat → ∃ pieces, Reference.read? (style.convert sql).toList = some pieces ∧
      pieces.map (Sum.elim id fun _ => '?') = sql.toList ∧ pieces.map Sum.isRight = mask ∧
      (pieces.filterMap Sum.getRight?).map some =
        (List.range (mask.count true)).map fun k => style.reference? (style.placeholder (k + 1)).toList) ∧
    ∀ (values : List Value) (k : Nat), (style.reference? (style.placeholder (k + 1)).toList).bind
      ((style.bind values).refer? k) = values[k]? := by
  obtain ⟨mask, hmask, hunique⟩ : ∃ mask, Masks sql.toList mask ∧ ∀ other, Masks sql.toList other → other = mask :=
    ⟨_, SqlToken.masks_ofChars sql.toList, fun other h => h.eq_mask⟩
  have hlength := hmask.length_eq
  refine ⟨mask, hmask, hunique, style.toList_convert hmask, fun hstyle => ?_, style.refer?_reference?⟩
  refine ⟨style.referred 0 (sql.toList.zip mask), ?_, ?_, ?_, ?_⟩
  · rw [style.toList_convert hmask]
    exact read?_replaced hstyle 0 _
  · rw [map_mark_referred style 0 hmask.eq_mark, List.map_fst_zip (Nat.le_of_eq hlength)]
  · rw [map_isRight_referred, List.map_snd_zip (Nat.le_of_eq hlength.symm)]
  · rw [filterMap_referred, List.map_snd_zip (Nat.le_of_eq hlength.symm), List.map_map]
    refine List.map_congr_left fun k _ => ?_
    rw [reference?_placeholder, Function.comp_apply, Nat.zero_add]

end PlaceholderStyle

end SqlBuilder
