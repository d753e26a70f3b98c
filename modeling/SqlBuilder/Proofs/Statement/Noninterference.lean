import SqlBuilder.Proofs.Statement.Exchange
import SqlBuilder.Proofs.Statement.Joins

/-!
Bound values do not reach the text of a statement. Two statements that are the same once their values are erased
have the same text, or fail in the same way, and the values of each are its own in the order of their places.
-/

namespace SqlBuilder

/-- Every value gives way to an absent one. -/
def Refit.erasure : Refit where
  fragment s bindings := (s, bindings.map fun _ => .null)
  bound _ := .null
  idle _ := .null

def StatementTree.erased (t : StatementTree) : StatementTree := t.refit .erasure

/-- Every text may stand anywhere. -/
def Vocabulary.everything : Vocabulary where
  special := []
  special_subset _ h := absurd h List.not_mem_nil
  fragment _ _ := True
  bare _ _ := True

namespace Vocabulary

theorem avoids_everything (s : String) : Text.Avoids everything.special s := fun _ _ h => absurd h List.not_mem_nil

theorem word_everything (v : Value) : everything.Word v := fun s _ => avoids_everything s

theorem name_everything (v : Value) : everything.Name v := by
  rcases v.raw_cases with ⟨s, bindings, rfl⟩ | ⟨content, bindings, rfl, h⟩ | h
  · trivial
  · cases content with
    | text s => exact absurd h (by simp [Value.text?])
    | _ => trivial
  · cases v with
    | raw content bindings => exact absurd h (by simp [Value.isRaw])
    | _ => exact word_everything _

theorem bareName_everything (v : Value) : everything.BareName v := by
  rcases v.raw_cases with ⟨s, bindings, rfl⟩ | ⟨content, bindings, rfl, h⟩ | h
  · trivial
  · cases content with
    | text s => exact absurd h (by simp [Value.text?])
    | _ => trivial
  · cases v with
    | raw content bindings => exact absurd h (by simp [Value.isRaw])
    | _ => exact word_everything _

theorem item_everything (v : Value) : everything.Item v := by
  cases v with
  | raw content bindings => cases content <;> trivial
  | _ => trivial

theorem operand_everything (isBound : Bool) (v : Value) : everything.Operand isBound v := by
  have hsingle : if isBound then everything.Item v else everything.Name v := by
    split
    · exact item_everything v
    · exact name_everything v
  cases v with
  | list items => exact fun w _ => item_everything w
  | tuple items => exact fun w _ => item_everything w
  | _ => exact hsingle

end Vocabulary

mutual

theorem Condition.fits_everything (isBound : Bool) : ∀ c : Condition, c.Fits .everything isBound
  | .test _ key operator operand =>
    ⟨Vocabulary.avoids_everything _, Vocabulary.name_everything key, Vocabulary.word_everything operator,
      Vocabulary.operand_everything isBound operand⟩
  | .group _ members => ⟨Vocabulary.avoids_everything _, Condition.allFit_everything true members⟩
  | .columns _ _ => ⟨Vocabulary.avoids_everything _, fun name _ => Vocabulary.bareName_everything name⟩

theorem Condition.allFit_everything (isBound : Bool) :
    ∀ conditions : List Condition, Condition.AllFit .everything isBound conditions
  | [] => trivial
  | c :: rest => ⟨Condition.fits_everything isBound c, Condition.allFit_everything isBound rest⟩

end

theorem Field.fits_everything (field : Field) : field.Fits .everything := by
  cases field with
  | plain name => exact Vocabulary.name_everything name
  | aliased name shortName => exact ⟨Vocabulary.name_everything name, Vocabulary.word_everything shortName⟩

theorem Join.fits_everything (j : Join) : j.Fits .everything where
  kind := Vocabulary.avoids_everything _
  table := (Vocabulary.name_everything _).joined fun _ _ name _ => Vocabulary.bareName_everything name
  conditions conditions _ := Condition.allFit_everything false conditions

theorem Clauses.fits_everything (c : Clauses) : c.Fits .everything where
  distinctOn field _ := field.fits_everything
  distincts field _ := field.fits_everything
  selects field _ := field.fits_everything
  tables table _ := Vocabulary.name_everything table
  aliases _ _ := Vocabulary.avoids_everything _
  joins j _ := j.fits_everything
  wheres := Condition.allFit_everything true c.wheres
  groupBys name _ := Vocabulary.name_everything name
  havings := Condition.allFit_everything true c.havings
  orderBys term _ := ⟨Vocabulary.name_everything term.field, Vocabulary.avoids_everything _⟩
  limit v _ := Vocabulary.word_everything v
  offset v _ := Vocabulary.word_everything v
  fetchNext v _ := Vocabulary.word_everything v
  locks v _ := Vocabulary.word_everything v

mutual

theorem SelectTree.fits_everything : ∀ tree : SelectTree, tree.Fits .everything
  | .mk clauses members => ⟨clauses.fits_everything, SelectTree.allFit_everything members⟩

theorem SelectTree.allFit_everything :
    ∀ members : List (UnionKind × SelectTree), SelectTree.AllFit .everything members
  | [] => trivial
  | (_, member) :: rest => ⟨SelectTree.fits_everything member, SelectTree.allFit_everything rest⟩

end

theorem Vocabulary.cells_everything (entries : List (Value × Value)) : everything.Cells entries :=
  fun cell _ => ⟨bareName_everything cell.1, item_everything cell.2⟩

theorem StatementTree.fits_everything (t : StatementTree) : t.Fits .everything := by
  cases t with
  | select tree => exact tree.fits_everything
  | insert clauses verb data =>
      refine ⟨fun table _ => Vocabulary.bareName_everything table, ?_, fun entries _ =>
        Vocabulary.cells_everything entries⟩
      cases data with
      | map entries => exact Vocabulary.cells_everything entries
      | _ => trivial
  | update clauses data =>
      refine ⟨clauses.fits_everything, fun table _ => Vocabulary.bareName_everything table, ?_⟩
      cases data with
      | map entries => exact Vocabulary.cells_everything entries
      | _ => trivial
  | delete clauses columns =>
      exact ⟨clauses.fits_everything, fun table _ => Vocabulary.bareName_everything table,
        fun names _ name _ => Vocabulary.bareName_everything name⟩
  | conditions isBound members => exact Condition.allFit_everything isBound members

/-- The second fragment is the first one without its values, which are the given ones. -/
def Erases (vs : List Value) (q q' : Query) : Prop := q.bindings = vs ∧ q' = ⟨q.sql, vs.map fun _ => .null⟩

/-- A text without values tells nothing about them. Spare values would have to be bound. -/
theorem respects_erasure (V : Vocabulary) (spare : Bool)
    (hspare : spare = true → ∀ s bindings, ¬ V.bare s bindings) (e : Engine) :
    V.Respects .erasure spare e e Erases where
  text _ _ := ⟨rfl, rfl⟩
  quoted _ _ := ⟨rfl, rfl⟩
  layout := .inl Iff.rfl
  append := by
    rintro vs ws p _ q _ ⟨rfl, rfl⟩ ⟨rfl, rfl⟩
    refine ⟨rfl, Query.ext rfl ?_⟩
    exact (List.map_append).symm
  strip := by
    rintro vs q _ ⟨rfl, rfl⟩
    exact ⟨rfl, rfl⟩
  fragment _ _ _ := ⟨rfl, rfl⟩
  bare s bindings hs := by
    cases spare with
    | false => exact ⟨rfl, rfl⟩
    | true => exact absurd hs (hspare rfl s bindings)
  bound _ _ := ⟨rfl, rfl⟩
  bound_items _ _ := rfl
  idle_isRaw _ _ := rfl
  idle_items _ _ := rfl

namespace StatementTree

/-- A statement that is written has its own values in the order of their places, and its text is that of the
statement without values. -/
theorem erases_render (e : Engine) (t : StatementTree) :
    Agree (Erases t.boundValues) (t.render (.ofEngine e)) (t.erased.render (.ofEngine e)) := by
  rw [← t.values_false]
  exact (respects_erasure .everything false (fun h => absurd h Bool.false_ne_true) e).statement_self t t.fits_everything

theorem bindings_render {e : Engine} {t : StatementTree} {q : Query} (h : t.render (.ofEngine e) = .ok q) :
    q.bindings = t.boundValues := by
  have herases := t.erases_render e
  rw [h] at herases
  obtain ⟨q', -, hq, -⟩ := herases.exists_ok
  exact hq

/-- Where no fragment of SQL is written without its values, none are spare. -/
theorem values_true_of_fits {V : Vocabulary} (hbare : ∀ s bindings, ¬ V.bare s bindings) {e : Engine}
    {t : StatementTree} {q : Query} (ht : t.Fits V) (h : t.render (.ofEngine e) = .ok q) :
    t.values true = q.bindings := by
  have herases := (respects_erasure V true (fun _ => hbare) e).statement_self t ht
  rw [h] at herases
  obtain ⟨q', -, hq, -⟩ := herases.exists_ok
  exact hq.symm

/-- A statement that is written is known by its text. -/
theorem render_eq_of_sql {e : Engine} {t : StatementTree} {s : String}
    (h : (t.render (.ofEngine e)).toOption.map (·.sql) = some s) : t.render (.ofEngine e) = .ok ⟨s, t.boundValues⟩ := by
  cases hr : t.render (.ofEngine e) with
  | error fault =>
      rw [hr] at h
      exact absurd h (by simp [Except.toOption])
  | ok q =>
      rw [hr] at h
      exact congrArg Except.ok (Query.ext (Option.some.inj h) (bindings_render hr))

/-- The text and the number of values are those of the statement without values. -/
theorem render_erased (e : Engine) (t : StatementTree) :
    t.erased.render (.ofEngine e) =
      (t.render (.ofEngine e)).map fun q => ⟨q.sql, t.boundValues.map fun _ => .null⟩ := by
  have h := t.erases_render e
  cases hr : t.render (.ofEngine e) with
  | error fault =>
      cases he : t.erased.render (.ofEngine e) with
      | error other =>
          rw [hr, he] at h
          exact congrArg Except.error h.symm
      | ok q =>
          rw [hr, he] at h
          exact h.elim
  | ok q =>
      rw [hr] at h
      obtain ⟨q', hq', -, rfl⟩ := h.exists_ok
      exact hq'

/-- Statements that are the same once their values are erased have the same text and equally many values, or fail
in the same way. -/
theorem render_congr_erased {e : Engine} {t₁ t₂ : StatementTree} (h : t₁.erased = t₂.erased) :
    Agree (fun q₁ q₂ => q₁.sql = q₂.sql ∧ q₁.bindings = t₁.boundValues ∧ q₂.bindings = t₂.boundValues ∧
        t₁.boundValues.length = t₂.boundValues.length)
      (t₁.render (.ofEngine e)) (t₂.render (.ofEngine e)) := by
  have herased : (t₁.render (.ofEngine e)).map (fun q => Query.mk q.sql (t₁.boundValues.map fun _ => .null)) =
      (t₂.render (.ofEngine e)).map fun q => Query.mk q.sql (t₂.boundValues.map fun _ => .null) := by
    rw [← render_erased, ← render_erased, h]
  cases h₁ : t₁.render (.ofEngine e) with
  | error fault =>
      cases h₂ : t₂.render (.ofEngine e) with
      | error other =>
          rw [h₁, h₂] at herased
          exact Except.error.inj herased
      | ok q₂ =>
          rw [h₁, h₂] at herased
          cases herased
  | ok q₁ =>
      cases h₂ : t₂.render (.ofEngine e) with
      | error other =>
          rw [h₁, h₂] at herased
          cases herased
      | ok q₂ =>
          rw [h₁, h₂] at herased
          have hq : Query.mk q₁.sql (t₁.boundValues.map fun _ => .null) =
              ⟨q₂.sql, t₂.boundValues.map fun _ => .null⟩ := Except.ok.inj herased
          obtain ⟨hsql, hvalues⟩ := Query.mk.inj hq
          refine ⟨hsql, bindings_render h₁, bindings_render h₂, ?_⟩
          simpa using congrArg List.length hvalues

end StatementTree

end SqlBuilder
