import SqlBuilder.Proofs.Statement.Filling
import SqlBuilder.Proofs.Text.Solid

/-!
Statements with their values written as literals. Filling the values of a compiled statement into its text, one
question mark after the other, gives the text that the statement has when every value was written where it stands.
So the question marks of a statement stand in the order of its values. That needs fragments of SQL with as many
question marks as values, no question marks elsewhere, and values that do not lose blanks at their ends.
-/

namespace SqlBuilder

/-- Every value is written as a literal in its place. -/
def Refit.interpolation (hasEscapes : Bool) : Refit where
  fragment s bindings := (String.ofList ((Value.filled? hasEscapes s.toList bindings).getD []), [])
  bound v := .raw (.text ((v.literal? hasEscapes).getD "")) []
  idle v := v

/-- Fragments of SQL have as many question marks as values; nothing else has any. -/
def Vocabulary.counted : Vocabulary where
  special := ['?']
  special_subset := Text.placeholder_subset_marks
  fragment s bindings := s.toList.count '?' = bindings.length
  bare _ _ := False

/-- The value can be written in place of a placeholder, and is no fragment of SQL. A statement is written as it is,
and must not be surrounded by blanks. -/
def Value.IsBindable (hasEscapes : Bool) (v : Value) : Prop :=
  v.isRaw = false ∧ ∃ s, v.literal? hasEscapes = some s ∧
    ((∃ sql bindings inner, v = .statement sql bindings inner) → Text.Solid s)

theorem Value.IsBindable.solid {hasEscapes : Bool} {v : Value} (h : v.IsBindable hasEscapes) :
    Text.Solid ((v.literal? hasEscapes).getD "") := by
  obtain ⟨hraw, s, hs, hstatement⟩ := h
  rw [hs, Option.getD_some]
  by_cases hv : ∃ sql bindings inner, v = .statement sql bindings inner
  · exact hstatement hv
  · exact Value.solid_literal hs hraw fun sql bindings inner heq => hv ⟨sql, bindings, inner, heq⟩

theorem Reading.openMarks_plain (cs : List Char) : Reading.plain.openMarks none cs = cs.count '?' := by
  induction cs with
  | nil => rfl
  | cons c cs ih =>
      have hnext : Reading.plain.next none c = none := rfl
      rw [Reading.openMarks, hnext, ih, List.count_cons]
      by_cases hc : c = '?'
      · simp [hc]
        omega
      · simp [hc]

theorem Reading.final_plain (cs : List Char) : Reading.plain.final none cs = none := by
  induction cs with
  | nil => rfl
  | cons c cs ih => exact ih

/-- A character that is no question mark is kept. -/
theorem Value.filled?_cons {hasEscapes : Bool} {c : Char} (hc : c ≠ '?') (cs : List Char) (vs : List Value) :
    Value.filled? hasEscapes (c :: cs) vs = (Value.filled? hasEscapes cs vs).map (c :: ·) := by
  cases vs with
  | nil => simp [Value.filled?]
  | cons v vs =>
      have hsplit : Text.splitFirstChars '?' (c :: cs) =
          (c :: (Text.splitFirstChars '?' cs).1, (Text.splitFirstChars '?' cs).2) := by
        rw [Text.splitFirstChars, if_neg hc]
      rw [Value.filled?, Value.filled?, hsplit]
      rcases Text.splitFirstChars '?' cs with ⟨front, _ | behind⟩
      · rfl
      · cases Value.literal? hasEscapes v with
        | none => rfl
        | some text => simp [Function.comp_def]

/-- A question mark gives way to the next value. -/
theorem Value.filled?_mark {hasEscapes : Bool} {v : Value} {s : String} (h : v.literal? hasEscapes = some s)
    (cs : List Char) (vs : List Value) :
    Value.filled? hasEscapes ('?' :: cs) (v :: vs) = (Value.filled? hasEscapes cs vs).map (s.toList ++ ·) := by
  have hsplit : Text.splitFirstChars '?' ('?' :: cs) = ([], some cs) := by
    rw [Text.splitFirstChars, if_pos rfl]
  rw [Value.filled?, hsplit]
  simp [h]

/-- Filling in the values of an outline one after the other writes each of them in its place. -/
theorem filled?_marked {hasEscapes : Bool} {o : Outline} (h : Reading.plain.Reads none o)
    (hgood : ∀ v ∈ o.values, v.IsBindable hasEscapes) :
    Value.filled? hasEscapes o.marked o.values =
      some (o.filled fun v => ((v.literal? hasEscapes).getD "").toList) := by
  induction o with
  | nil => simp [Value.filled?, Outline.marked]
  | cons place o ih =>
      cases place with
      | inl c =>
          have hc : c ≠ '?' := fun hc => h.1 ⟨rfl, hc⟩
          have htail := ih h.2 hgood
          change Value.filled? hasEscapes (c :: Outline.marked o) (Outline.values o) = _
          rw [Value.filled?_cons hc, htail]
          rfl
      | inr v =>
          have htail := ih h.2 fun w hw => hgood w (List.mem_cons_of_mem v hw)
          obtain ⟨-, s, hs, -⟩ := hgood v List.mem_cons_self
          change Value.filled? hasEscapes ('?' :: Outline.marked o) (v :: Outline.values o) = _
          rw [Value.filled?_mark hs, htail, Outline.filled_inr, hs]
          rfl

theorem writesInto_interpolation (hasEscapes : Bool) :
    (Refit.interpolation hasEscapes).WritesInto .plain (Value.IsBindable hasEscapes)
      (fun v => (v.literal? hasEscapes).getD "") .counted where
  special := rfl
  bare _ _ h := h.elim
  final s _ _ := Reading.final_plain s.toList
  openMarks s _ h := (Reading.openMarks_plain s.toList).trans h
  fragment s bindings h hgood := by
    obtain ⟨hreads, hmarked, hvalues⟩ := Reading.outline_spec (Reading.final_plain s.toList)
      ((Reading.openMarks_plain s.toList).trans h)
    have hfilled := filled?_marked hreads (hvalues.symm ▸ hgood)
    rw [hmarked, hvalues] at hfilled
    change (String.ofList ((Value.filled? hasEscapes s.toList bindings).getD [])).toList = _
    rw [hfilled, String.toList_ofList, Option.getD_some]
  fragment_bindings _ _ := rfl
  bound _ := rfl
  idle _ := rfl
  solid _ h := h.solid

/-- The number of question marks in the text of an outline. -/
theorem count_marked {o : Outline} (h : Reading.plain.Reads none o) : o.marked.count '?' = o.values.length := by
  induction o with
  | nil => rfl
  | cons place o ih =>
      cases place with
      | inl c =>
          have hc : c ≠ '?' := fun hc => h.1 ⟨rfl, hc⟩
          change (c :: Outline.marked o).count '?' = _
          rw [List.count_cons_of_ne hc]
          exact ih h.2
      | inr v =>
          change ('?' :: Outline.marked o).count '?' = _
          rw [List.count_cons_self, ih h.2]
          rfl

/-- The text of a statement with its values filled in is that of the statement with its values in place. -/
theorem StatementTree.text_issued {e : Engine} {t : StatementTree} {q : Query} (hasEscapes : Bool)
    (ht : t.Fits .counted) (hq : t.render (.ofEngine e) = .ok q)
    (hgood : ∀ v ∈ q.bindings, v.IsBindable hasEscapes) :
    q.sql.toList.count '?' = q.bindings.length ∧ ∃ text, (q.issued hasEscapes).text? = some text ∧
      (t.refit (.interpolation hasEscapes)).render (.ofEngine e) = .ok (.plain text) := by
  obtain ⟨-, hreads, hmarked, hvalues, text, hrender, htext⟩ :=
    StatementTree.fills_render (writesInto_interpolation hasEscapes) (fun _ _ h => h) e ht hq
  have hfilled := filled?_marked hreads (hvalues.symm ▸ hgood)
  have hcount := count_marked hreads
  rw [hmarked, hvalues] at hfilled hcount
  refine ⟨hcount, text, ?_, hrender⟩
  have hissued : (q.issued hasEscapes).text? =
      (Value.filled? hasEscapes q.sql.toList q.bindings).map String.ofList := by
    simp [Query.issued, Issued.text?, Issued.toValue, Value.written?, Value.text?]
  rw [hissued, hfilled, ← htext hgood, Option.map_some, String.ofList_toList]

end SqlBuilder
