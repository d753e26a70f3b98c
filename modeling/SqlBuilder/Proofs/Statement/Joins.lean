import SqlBuilder.Proofs.Statement.Limit

/-!
The joining of clauses. A statement is its pieces that hold something, without the blanks around them and with one
space between two of them, so it does not matter which pieces are put together first. The joins of a statement can be
written one behind the other, each behind all that is written so far, or all at once. And the text of a statement can
be told by the words of its clauses, each of which is looked at once and not with all that is written in front of it.
-/

namespace SqlBuilder

namespace Query

theorem clauses_nil : clauses [] = .plain "" := rfl

/-- Clauses that are made of clauses are those clauses in a row. -/
theorem clauses_flatten (parts : List (List Query)) : clauses (parts.map clauses) = clauses parts.flatten := by
  have hsql : (parts.map clauses).map (·.sql) = (parts.map (·.map (·.sql))).map Text.concatenate := by
    rw [List.map_map, List.map_map]
    rfl
  have hbindings : ∀ parts : List (List Query),
      (parts.map clauses).flatMap (·.bindings) = parts.flatten.flatMap (·.bindings) := by
    intro parts
    induction parts with
    | nil => rfl
    | cons part parts ih =>
        rw [List.map_cons, List.flatMap_cons, ih, List.flatten_cons, List.flatMap_append]
        rfl
  rw [clauses, hsql, hbindings, Text.concatenate_flatten, ← List.map_flatten]
  rfl

theorem clauses_singleton (front : List Query) : clauses [clauses front] = clauses front := by
  simpa only [List.map_cons, List.map_nil, List.flatten_cons, List.flatten_nil, List.append_nil] using
    clauses_flatten [front]

theorem clauses_pair (front back : List Query) : clauses [clauses front, clauses back] = clauses (front ++ back) := by
  simpa only [List.map_cons, List.map_nil, List.flatten_cons, List.flatten_nil, List.append_nil] using
    clauses_flatten [front, back]

/-- Clauses in front may be put together first. -/
theorem clauses_append (front back : List Query) : clauses (front ++ back) = clauses (clauses front :: back) :=
  calc clauses (front ++ back)
      = clauses [clauses front, clauses back] := (clauses_pair front back).symm
    _ = clauses [clauses [clauses front], clauses back] := by rw [clauses_singleton]
    _ = clauses (clauses front :: back) := clauses_pair [clauses front] back

end Query

namespace Join

/-- The pieces of a join: its kind, the word, what is joined, and the conditions. -/
def pieces (d : Dialect) (j : Join) : Except Fault (List Query) := do
  let table ← unlessCallable j.table (tableClause d j.table)
  let conditions ← conditionClause d j.conditions
  requireTable j.table
  pure [.plain (Text.upper j.kind), .plain "JOIN", table, conditions]

/-- One more join behind what is written so far. -/
def extend (d : Dialect) (written : Query) (j : Join) : Except Fault Query := do
  pure (Query.clauses (written :: (← j.pieces d)))

variable {d : Dialect}

theorem render_eq (d : Dialect) (j : Join) : j.render d = (do pure (Query.clauses (← j.pieces d))) := by
  simp only [render, pieces, bind_assoc, pure_bind]

theorem mapM_render (d : Dialect) (joins : List Join) :
    joins.mapM (render d) = (do pure ((← joins.mapM (pieces d)).map Query.clauses)) := by
  induction joins with
  | nil => rfl
  | cons j joins ih => simp only [List.mapM_cons, render_eq, ih, bind_assoc, pure_bind, List.map_cons]

/-- The joins of a statement are all their pieces in a row. -/
theorem clause_eq (d : Dialect) (joins : List Join) :
    clause d joins = (do pure (Query.clauses (← joins.mapM (pieces d)).flatten)) := by
  simp only [clause, mapM_render, bind_assoc, pure_bind, Query.clauses_flatten]

theorem foldlM_extend (joins : List Join) : ∀ front : List Query, joins.foldlM (extend d) (Query.clauses front) =
    (do pure (Query.clauses (front ++ (← joins.mapM (pieces d)).flatten))) := by
  induction joins with
  | nil =>
      intro front
      rw [List.foldlM_nil, List.mapM_nil, pure_bind, List.flatten_nil, List.append_nil]
  | cons j joins ih =>
      intro front
      simp only [List.foldlM_cons, List.mapM_cons, extend, bind_assoc, pure_bind, ← Query.clauses_append, ih,
        List.flatten_cons, List.append_assoc]

end Join

open Text in
/-- The joining of clauses. The pieces are written without the blanks around them and with one space between two of
them, but for those in which there are only blanks. So it does not matter which of them are put together first, nor
how many blank ones there are, and the joins of a statement are the same whether each is written behind all that is
written so far or all their pieces at once. -/
theorem clauses_joined :
    (∀ s t, strip s = t ↔ Strips s t) ∧
    (∀ pieces, concatenate pieces = joined " " ((pieces.filter fun piece => !isBlankText piece).map strip)) ∧
    (∀ parts : List (List String), concatenate (parts.map concatenate) = concatenate parts.flatten) ∧
    (∀ pieces others : List String, (pieces.filter fun piece => !isBlankText piece) =
      (others.filter fun piece => !isBlankText piece) → concatenate pieces = concatenate others) ∧
    ∀ (d : Dialect) (joins : List Join), Join.clause d joins = joins.foldlM (Join.extend d) (.plain "") ∧
      Join.clause d joins = (do pure (Query.clauses (← joins.mapM (Join.pieces d)).flatten)) := by
  have hwords : ∀ pieces,
      concatenate pieces = joined " " ((pieces.filter fun piece => !isBlankText piece).map strip) := by
    intro pieces
    rw [concatenate_eq_joined, words_eq]
  refine ⟨fun s t => strip_eq_iff, hwords, concatenate_flatten, fun pieces others h => ?_, fun d joins => ⟨?_, ?_⟩⟩
  · rw [hwords, hwords, h]
  · rw [← Query.clauses_nil, Join.foldlM_extend joins [], Join.clause_eq]
    rfl
  · exact Join.clause_eq d joins

/-- Blank pieces may come, go and stand anywhere. -/
theorem clauses_joined_blank :
    ([" SELECT ", "", "*", "FROM\n", "a"].filter fun piece => !Text.isBlankText piece) =
      (["\t", " SELECT ", "*", " \x1f", "\n", "FROM\n", "a"].filter fun piece => !Text.isBlankText piece) ∧
    Text.concatenate [" SELECT ", "", "*", "FROM\n", "a"] =
      Text.concatenate ["\t", " SELECT ", "*", " \x1f", "\n", "FROM\n", "a"] :=
  ⟨by decide, clauses_joined.2.2.2.1 _ _ (by decide)⟩

example : Text.concatenate [" SELECT ", "", "*", "FROM\n", "a"] = "SELECT * FROM a" := by decide

/-! ### The text of a statement by the words of its clauses -/

def Query.wording (parts : List Query) : String := Text.joined " " (Text.words (parts.map (·.sql)))

theorem Query.sql_clauses (parts : List Query) : (clauses parts).sql = wording parts :=
  Text.concatenate_eq_joined _

namespace Clauses

/-- The text of a projection, by the words of its clauses. -/
def selectWording (d : Dialect) (c : Clauses) : Except Fault String := do
  let distinct ← c.distinctClause d
  let parts ← c.selectParts d
  let top ← c.top d
  let pages ← c.pages d
  let lock ← c.lock d
  pure (Query.wording ([.plain "SELECT", distinct] ++ .plain top :: (parts ++ pages ++ [.plain lock])))

/-- The text of a statement that changes rows, by the words of its clauses. -/
def pagedWording (d : Dialect) (c : Clauses) (verb : String) (changed : Value × List Query) : Except Fault String := do
  let pages ← c.pages d
  requireTable changed.1
  pure (Query.wording (.plain verb :: (changed.2 ++ pages)))

theorem selectWording_eq (d : Dialect) (c : Clauses) : c.selectWording d = (do pure (← c.select d).sql) := by
  simp only [selectWording, select_eq, bind_assoc, pure_bind, Query.sql_clauses]

theorem pagedWording_eq (d : Dialect) (c : Clauses) (verb : String) (changed : Value × List Query) :
    c.pagedWording d verb changed = (do pure (← c.paged d verb changed).sql) := by
  simp only [pagedWording, paged, bind_assoc, pure_bind, Query.sql_clauses]

end Clauses

namespace SelectTree

mutual

/-- The text of a projection with those it is united with, by the words of their clauses. -/
def wording (d : Dialect) : SelectTree → Except Fault String
  | .mk clauses members => do
    let own ← clauses.selectWording d
    if members.isEmpty then pure own
    else pure ("(" ++ own ++ ")" ++ (← wordingMembers d members))

def wordingMembers (d : Dialect) : List (UnionKind × SelectTree) → Except Fault String
  | [] => pure ""
  | (kind, member) :: rest => do
    let front ← wording d member
    let back ← wordingMembers d rest
    pure (kind.words ++ ("(" ++ front ++ ")") ++ back)

end

variable (d : Dialect)

mutual

theorem wording_eq : ∀ tree : SelectTree, tree.wording d = (do pure (← tree.render d).sql)
  | .mk clauses members => by
      rw [wording, render, Clauses.selectWording_eq, wordingMembers_eq members]
      simp only [bind_assoc, pure_bind]
      refine bind_congr fun own => ?_
      split
      · rfl
      · simp only [bind_assoc, pure_bind]
        rfl

theorem wordingMembers_eq : ∀ members : List (UnionKind × SelectTree),
    wordingMembers d members = (do pure (← renderMembers d members).sql)
  | [] => by
      rw [wordingMembers, renderMembers]
      rfl
  | (kind, member) :: rest => by
      rw [wordingMembers, renderMembers, wording_eq member, wordingMembers_eq rest]
      simp only [bind_assoc, pure_bind]
      rfl

end

end SelectTree

namespace StatementTree

/-- The text of a statement, by the words of its clauses. -/
def wording (d : Dialect) : StatementTree → Except Fault String
  | select tree => tree.wording d
  | update c data => do c.pagedWording d "UPDATE" (← c.updateParts d data)
  | delete c columns => do c.pagedWording d "DELETE" (← c.deleteParts d columns)
  | t => do pure (← t.render d).sql

theorem wording_eq (d : Dialect) (t : StatementTree) : t.wording d = (do pure (← t.render d).sql) := by
  cases t with
  | select tree => exact tree.wording_eq d
  | update c data =>
      change _ = (c.update d data >>= _)
      simp only [wording, Clauses.update_eq, Clauses.pagedWording_eq, bind_assoc]
  | delete c columns =>
      change _ = (c.delete d columns >>= _)
      simp only [wording, Clauses.delete_eq, Clauses.pagedWording_eq, bind_assoc]
  | _ => rfl

/-- Whether a statement has the text is told by the words of its clauses, each of which is looked at once. -/
instance (d : Dialect) (t : StatementTree) (o : Option String) : Decidable ((t.render d).toOption.map (·.sql) = o) :=
  decidable_of_iff ((t.wording d).toOption = o) <| by
    rw [wording_eq]
    cases t.render d <;> rfl

end StatementTree

end SqlBuilder
