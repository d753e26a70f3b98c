import SqlBuilder.Proofs.Statement.Interpolation

/-!
Where the values of a statement belong in its text. A fragment of SQL has as many question marks as values, and no
other text has any. Then the question marks of a statement are the places of its values in their order, which shows
when the values are written there, in whatever way. Where the text of a fragment is taken over without its values,
their places are in the statement all the same, and the values are missing among those that are bound.
-/

namespace SqlBuilder

/-- Fragments of SQL have as many question marks as values, also where only their texts are written; nothing else has
any. -/
def Vocabulary.balanced : Vocabulary where
  special := ['?']
  special_subset := Text.placeholder_subset_marks
  fragment s bindings := s.toList.count '?' = bindings.length
  bare s bindings := s.toList.count '?' = bindings.length

/-- Every value is written in its place by the given function, and every question mark of a fragment of SQL is the
place of a value. -/
def Refit.placing (write : Value → String) : Refit where
  fragment s bindings :=
    (String.ofList ((Reading.plain.outline none s.toList bindings).filled fun v => (write v).toList), [])
  bound v := .raw (.text (write v)) []
  idle v := v

/-- The question marks of the text are the places of the values in their order. With the values written there, in
whatever way, the text is that of the statement with its values written instead of bound. -/
def StatementTree.Places (t : StatementTree) (e : Engine) (sql : String) (values : List Value) : Prop :=
  sql.toList.count '?' = values.length ∧
    ∃ o : Outline, o.marked = sql.toList ∧ o.values = values ∧
      ∀ write : Value → String, (∀ v, Text.IsSolid (write v).toList) →
        (t.refit (.placing write)).render (.ofEngine e) =
          .ok (.plain (String.ofList (o.filled fun v => (write v).toList)))

/-- Whatever fragments of SQL the vocabulary allows have as many question marks as values. -/
structure Vocabulary.IsBalanced (V : Vocabulary) : Prop where
  special : V.special = ['?']
  fragment : ∀ s bindings, V.fragment s bindings → s.toList.count '?' = bindings.length
  bare : ∀ s bindings, V.bare s bindings → V.fragment s bindings

theorem Vocabulary.isBalanced_balanced : balanced.IsBalanced := ⟨rfl, fun _ _ h => h, fun _ _ h => h⟩

theorem Vocabulary.isBalanced_counted : counted.IsBalanced := ⟨rfl, fun _ _ h => h, fun _ _ h => h.elim⟩

theorem writesInto_placing {V : Vocabulary} (hV : V.IsBalanced) {write : Value → String}
    (hsolid : ∀ v, Text.IsSolid (write v).toList) :
    (Refit.placing write).WritesInto .plain (fun _ => True) write V where
  special := hV.special
  bare := hV.bare
  final s _ _ := Reading.final_plain s.toList
  openMarks s bindings h := (Reading.openMarks_plain s.toList).trans (hV.fragment s bindings h)
  fragment s bindings _ _ := by
    change (String.ofList _).toList = _
    rw [String.toList_ofList]
  fragment_bindings _ _ := rfl
  bound _ := rfl
  idle _ := rfl
  solid v _ := hsolid v

/-- The question marks of a statement are the places of its values, the spare ones among them. -/
theorem StatementTree.places_values {V : Vocabulary} (hV : V.IsBalanced) {e : Engine} {t : StatementTree} {q : Query}
    (ht : t.Fits V) (hq : t.render (.ofEngine e) = .ok q) : t.Places e q.sql (t.values true) := by
  have hwritten := fun (write : Value → String) (hsolid : ∀ v, Text.IsSolid (write v).toList) =>
    fills_render_spare (writesInto_placing hV hsolid) e ht hq
  obtain ⟨hreads, hmarked, hvalues, -⟩ := hwritten (fun _ => "?") fun _ => Text.isSolid_mark
  have hcount := count_marked hreads
  rw [hmarked, hvalues] at hcount
  refine ⟨hcount, Reading.plain.outline none q.sql.toList (t.values true), hmarked, hvalues, ?_⟩
  intro write hsolid
  obtain ⟨-, -, -, s, hrender, hs⟩ := hwritten write hsolid
  rw [hrender, ← hs fun _ _ => trivial, String.ofList_toList]

end SqlBuilder
