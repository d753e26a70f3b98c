import SqlBuilder.Proofs.Placeholder.Directives
import SqlBuilder.Proofs.Statement.Filling

/-!
From a statement to the placeholders of a database module. The fragments of SQL in a statement close every region
that they open, and nothing else in it holds a mark. Then no region swallows a placeholder of the compiled text: the
conversion emits one for every value, numbered in the order of the places where the values belong, and the container
of the values has one for each of them.
-/

namespace SqlBuilder

/-- Fragments of SQL close what they open, and have as many question marks outside of quoted regions as values.
Nothing else holds a mark. -/
def Vocabulary.quoted : Vocabulary where
  special := Text.marks
  special_subset _ h := h
  fragment s bindings :=
    Reading.quoting.final none s.toList = none ∧ Reading.quoting.openMarks none s.toList = bindings.length
  bare _ _ := False

/-- Every value is written in its place by the given function, and fragments of SQL have their own values in place. -/
def Refit.writing (write : Value → String) : Refit where
  fragment s bindings :=
    (String.ofList ((Reading.quoting.outline none s.toList bindings).filled fun v => (write v).toList), [])
  bound v := .raw (.text (write v)) []
  idle v := v

theorem writesInto_writing {write : Value → String} (hsolid : ∀ v, Text.IsSolid (write v).toList) :
    (Refit.writing write).WritesInto .quoting (fun _ => True) write .quoted where
  special := rfl
  bare _ _ h := h.elim
  final _ _ h := h.1
  openMarks _ _ h := h.2
  fragment s bindings _ _ := by
    change (String.ofList _).toList = _
    rw [String.toList_ofList]
  fragment_bindings _ _ := rfl
  bound _ := rfl
  idle _ := rfl
  solid v _ := hsolid v

/-! ### Words in the places of values -/

/-- A text in which some places are taken by values, each with the word of its placeholder. -/
abbrev StyledOutline := List (Char ⊕ List Char × Value)

namespace StyledOutline

def outline (o : StyledOutline) : Outline := o.map (Sum.map id Prod.snd)

/-- The text with the words alone, for a module with the style. -/
def written (style : PlaceholderStyle) (o : StyledOutline) : List Char := o.flatMap (Sum.elim style.kept Prod.fst)

def placeholders (o : StyledOutline) : List (List Char × Value) := o.filterMap Sum.getRight?

end StyledOutline

/-- The outline with the words of placeholders that are numbered on from the given number. -/
def Outline.worded (style : PlaceholderStyle) : Nat → Outline → StyledOutline
  | _, [] => []
  | number, .inl c :: o => .inl c :: worded style number o
  | number, .inr v :: o => .inr ((style.placeholder (number + 1)).toList, v) :: worded style (number + 1) o

namespace Outline

variable (style : PlaceholderStyle)

theorem outline_worded (number : Nat) (o : Outline) : (o.worded style number).outline = o := by
  induction o generalizing number with
  | nil => rfl
  | cons place o ih =>
      cases place with
      | inl c => exact congrArg (.inl c :: ·) (ih number)
      | inr v => exact congrArg (.inr v :: ·) (ih (number + 1))

theorem written_worded (number : Nat) (o : Outline) :
    (o.worded style number).written style = o.styled style number := by
  induction o generalizing number with
  | nil => rfl
  | cons place o ih =>
      cases place with
      | inl c =>
          rw [styled, style.keep_eq_flatMap, List.flatMap_singleton, ← ih]
          rfl
      | inr v =>
          rw [styled, ← ih]
          rfl

/-- Each value has the placeholder with its own number. -/
theorem getElem?_placeholders_worded (number place : Nat) (o : Outline) :
    (o.worded style number).placeholders[place]? =
      o.values[place]?.map fun v => ((style.placeholder (number + place + 1)).toList, v) := by
  induction o generalizing number place with
  | nil => rfl
  | cons piece o ih =>
      cases piece with
      | inl c => exact ih number place
      | inr v =>
          cases place with
          | zero => rfl
          | succ place =>
              have hrest := ih (number + 1) place
              rw [show number + 1 + place + 1 = number + (place + 1) + 1 by omega] at hrest
              exact hrest

end Outline

/-! ### Statements -/

/-- The conversion of a compiled statement has a placeholder in the place of each value, and nothing in the text is
taken for another one. The places are those into which any way of writing values would put them, and what a module with
the style reads in a placeholder leads to the value of its place. -/
theorem StatementTree.convert_render {e : Engine} {t : StatementTree} {q : Query} {style : PlaceholderStyle}
    (hstyle : style ≠ .qmark) (ht : t.Fits .quoted) (hq : t.render (.ofEngine e) = .ok q) :
    ∃ o : StyledOutline, o.outline.marked = q.sql.toList ∧ o.outline.values = q.bindings ∧
      (∀ write : Value → String, (∀ v, Text.IsSolid (write v).toList) →
        (t.refit (.writing write)).render (.ofEngine e) =
          .ok (.plain (String.ofList (o.outline.filled fun v => (write v).toList)))) ∧
      (style.convert q.sql).toList = o.written style ∧
      (SqlToken.ofChars q.sql.toList).count .placeholder = q.bindings.length ∧
      ∀ place word v, o.placeholders[place]? = some (word, v) →
        (style.reference? word).bind ((style.bind q.bindings).refer? place) = some v := by
  have hwritten := fun (write : Value → String) (hsolid : ∀ v, Text.IsSolid (write v).toList) =>
    fills_render (writesInto_writing hsolid) (fun _ _ h => h) e ht hq
  obtain ⟨-, hreads, hmarked, hvalues, -⟩ := hwritten (fun _ => "?") fun _ => Text.isSolid_mark
  refine ⟨(Reading.quoting.outline none q.sql.toList q.bindings).worded style 0, ?_⟩
  rw [Outline.outline_worded]
  refine ⟨hmarked, hvalues, ?_, ?_, ?_, ?_⟩
  · intro write hsolid
    obtain ⟨-, -, -, -, s, hrender, hs⟩ := hwritten write hsolid
    rw [hrender, ← hs fun _ _ => trivial, String.ofList_toList]
  · rw [Outline.written_worded, PlaceholderStyle.convert_eq hstyle hreads hmarked, String.toList_ofList]
  · rw [← hmarked, (hreads.converts style).1, hvalues]
  · intro place word v hplace
    rw [Outline.getElem?_placeholders_worded, hvalues, Nat.zero_add] at hplace
    obtain ⟨v', hv', heq⟩ := Option.map_eq_some_iff.1 hplace
    cases heq
    rw [style.refer?_reference?, hv']

end SqlBuilder
