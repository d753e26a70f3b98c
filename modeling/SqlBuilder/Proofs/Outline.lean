import SqlBuilder.Query
import Mathlib.Data.List.Basic

/-!
The outline of a statement: its text, in which the places of the values are taken by the values themselves. A
statement with placeholders shows a question mark at each place. Writing every value into its place gives a
text without placeholders; the two are stripped of the same blanks, as long as no value is written with blanks
around it.
-/

namespace SqlBuilder

namespace Text

/-- The text begins with a character that is no blank. -/
def Opens (cs : List Char) : Prop := ∃ c rest, cs = c :: rest ∧ isBlank c = false

/-- The text is not empty, and there are no blanks around it. -/
def IsSolid (cs : List Char) : Prop := Opens cs ∧ Opens cs.reverse

theorem isSolid_mark : IsSolid ['?'] := ⟨⟨'?', [], rfl, by decide⟩, ⟨'?', [], rfl, by decide⟩⟩

theorem stripLeftChars_eq_self {cs : List Char} (h : Opens cs) (rest : List Char) :
    stripLeftChars (cs ++ rest) = cs ++ rest := by
  obtain ⟨c, behind, rfl, hc⟩ := h
  simp [stripLeftChars, hc]

theorem IsSolid.of_forall {cs : List Char} (hne : cs ≠ []) (h : ∀ c ∈ cs, isBlank c = false) :
    IsSolid cs := by
  constructor
  · obtain ⟨c, rest, rfl⟩ := List.exists_cons_of_ne_nil hne
    exact ⟨c, rest, rfl, h c List.mem_cons_self⟩
  · obtain ⟨c, rest, hr⟩ := List.exists_cons_of_ne_nil (mt List.reverse_eq_nil_iff.1 hne)
    exact ⟨c, rest, hr, h c (List.mem_reverse.1 (hr ▸ List.mem_cons_self))⟩

/-- A text between two characters that are no blanks. -/
theorem IsSolid.of_ends {first last : Char} (hfirst : isBlank first = false) (hlast : isBlank last = false)
    (inside : List Char) : IsSolid (first :: inside ++ [last]) :=
  ⟨⟨first, inside ++ [last], rfl, hfirst⟩, ⟨last, (first :: inside).reverse, by simp, hlast⟩⟩

end Text

abbrev Outline := List (Char ⊕ Value)

namespace Outline

def piece (write : Value → List Char) : Char ⊕ Value → List Char
  | .inl c => [c]
  | .inr v => write v

def filled (write : Value → List Char) (o : Outline) : List Char := o.flatMap (piece write)

def marked (o : Outline) : List Char := o.filled fun _ => ['?']

def values (o : Outline) : List Value := o.filterMap Sum.getRight?

def ofChars (cs : List Char) : Outline := cs.map .inl

variable {write : Value → List Char} {o p : Outline}

@[simp] theorem filled_nil : filled write [] = [] := rfl

@[simp] theorem filled_inl (c : Char) (o : Outline) : filled write (.inl c :: o) = c :: filled write o := rfl

@[simp] theorem filled_inr (v : Value) (o : Outline) :
    filled write (.inr v :: o) = write v ++ filled write o := rfl

@[simp] theorem filled_append (o p : Outline) : filled write (o ++ p) = filled write o ++ filled write p := by
  simp [filled]

@[simp] theorem filled_ofChars (cs : List Char) : filled write (ofChars cs) = cs := by
  induction cs with
  | nil => rfl
  | cons c cs ih => exact congrArg (c :: ·) ih

@[simp] theorem marked_ofChars (cs : List Char) : marked (ofChars cs) = cs := filled_ofChars cs

@[simp] theorem marked_append (o p : Outline) : marked (o ++ p) = marked o ++ marked p := filled_append o p

@[simp] theorem values_nil : values [] = [] := rfl

@[simp] theorem values_inl (c : Char) (o : Outline) : values (.inl c :: o) = values o := rfl

@[simp] theorem values_append (o p : Outline) : values (o ++ p) = values o ++ values p := by
  simp [values]

@[simp] theorem values_ofChars (cs : List Char) : values (ofChars cs) = [] := by
  induction cs with
  | nil => rfl
  | cons c cs ih => exact ih

theorem reverse_filled (o : Outline) :
    (filled write o).reverse = filled (fun v => (write v).reverse) o.reverse := by
  induction o with
  | nil => rfl
  | cons place o ih =>
      rw [List.reverse_cons, filled_append, ← ih]
      cases place <;> simp

theorem values_reverse (o : Outline) : values o.reverse = (values o).reverse := by
  simp [values, List.filterMap_reverse]

/-! ### Stripping -/

def isBlankPlace : Char ⊕ Value → Bool
  | .inl c => Text.isBlank c
  | .inr _ => false

def stripLeft (o : Outline) : Outline := o.dropWhile isBlankPlace

def strip (o : Outline) : Outline := (stripLeft (stripLeft o).reverse).reverse

theorem values_stripLeft (o : Outline) : values (stripLeft o) = values o := by
  induction o with
  | nil => rfl
  | cons place o ih =>
      cases place with
      | inr v => rfl
      | inl c =>
          rw [stripLeft, List.dropWhile_cons]
          split
          · exact ih
          · rfl

@[simp] theorem values_strip (o : Outline) : values (strip o) = values o := by
  rw [strip, values_reverse, values_stripLeft, values_reverse, values_stripLeft, List.reverse_reverse]

theorem stripLeftChars_filled (h : ∀ v ∈ values o, Text.Opens (write v)) :
    Text.stripLeftChars (filled write o) = filled write (stripLeft o) := by
  induction o with
  | nil => rfl
  | cons place o ih =>
      cases place with
      | inr v =>
          rw [filled_inr, Text.stripLeftChars_eq_self (h v List.mem_cons_self)]
          rfl
      | inl c =>
          rw [filled_inl, Text.stripLeftChars, stripLeft, List.dropWhile_cons, List.dropWhile_cons]
          cases hc : Text.isBlank c with
          | true =>
              rw [if_pos rfl, if_pos (by exact hc)]
              exact ih h
          | false =>
              rw [if_neg (by simp), if_neg (by simp [isBlankPlace, hc])]
              rfl

/-- Writing values that have no blanks around them and stripping may change places. -/
theorem stripChars_filled (h : ∀ v ∈ values o, Text.IsSolid (write v)) :
    Text.stripChars (filled write o) = filled write (strip o) := by
  have hback : ∀ v ∈ values (stripLeft o).reverse, Text.Opens (write v).reverse := by
    intro v hv
    rw [values_reverse, List.mem_reverse, values_stripLeft] at hv
    exact (h v hv).2
  unfold Text.stripChars strip
  rw [stripLeftChars_filled fun v hv => (h v hv).1, reverse_filled, stripLeftChars_filled hback, reverse_filled]
  simp only [List.reverse_reverse]

theorem stripChars_marked (o : Outline) : Text.stripChars (marked o) = marked (strip o) :=
  stripChars_filled fun _ _ => Text.isSolid_mark

end Outline

end SqlBuilder
