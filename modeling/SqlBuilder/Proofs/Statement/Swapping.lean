import SqlBuilder.Proofs.Statement.Limit

/-!
Projections with an expression in place of what they project, and without an order. The rest of such a statement is
that of the other one, with the same values.
-/

namespace SqlBuilder

namespace Query

/-- The second statement is the first one without its order, and with another piece in place of what it projects. -/
def Swaps (fields orders piece q q' : Query) : Prop :=
  ∃ front middle back, q = .clauses (front ++ fields :: (middle ++ orders :: back)) ∧
    q' = .clauses (front ++ piece :: (middle ++ back))

/-- A clause that has nothing to say leaves no trace. -/
theorem clauses_empty (front back : List Query) : clauses (front ++ .plain "" :: back) = clauses (front ++ back) := by
  have hempty : ∀ pieces : List String, Text.words ("" :: pieces) = Text.words pieces := fun _ => rfl
  unfold clauses
  rw [Text.concatenate_eq_joined, Text.concatenate_eq_joined, List.map_append, List.map_append, List.map_cons,
    Text.words_append, Text.words_append, List.flatMap_append, List.flatMap_append, List.flatMap_cons]
  change Query.mk (Text.joined " " (_ ++ Text.words ("" :: _))) (_ ++ ([] ++ _)) = _
  rw [hempty, List.nil_append]

end Query

namespace Clauses

variable {d : Dialect} {c : Clauses} {q : Query}

/-- The clauses with the expression as their projection and without an order. -/
def swapped (expression : Value) (c : Clauses) : Clauses := { c with selects := [.plain expression], orderBys := [] }

/-- Only the first and the last of the parts are not the same. -/
theorem selectParts_swapped {parts : List Query} (content : String) (hdistincts : c.distincts = [])
    (h : c.selectParts d = .ok parts) : ∃ fields middle orders, parts = fields :: (middle ++ [orders]) ∧
      Field.renderAll d c.projection = .ok fields ∧ OrderTerm.clause d c.orderBys = .ok orders ∧
      (c.swapped (.raw (.text content) [])).selectParts d = .ok (.plain content :: (middle ++ [.plain ""])) := by
  have hfields' : Field.renderAll d (c.swapped (.raw (.text content) [])).projection = .ok (.plain content) := by
    unfold projection swapped
    rw [hdistincts]
    rfl
  obtain ⟨tables, htables, h⟩ := exists_ok_of_bind h
  obtain ⟨qualifier, hqualifier, h⟩ := exists_ok_of_bind h
  obtain ⟨joins, hjoins, h⟩ := exists_ok_of_bind h
  obtain ⟨wheres, hwheres, h⟩ := exists_ok_of_bind h
  obtain ⟨groups, hgroups, h⟩ := exists_ok_of_bind h
  obtain ⟨havings, hhavings, h⟩ := exists_ok_of_bind h
  obtain ⟨orders, horders, h⟩ := exists_ok_of_bind h
  obtain ⟨fields, hfields, h⟩ := exists_ok_of_bind h
  cases hcallable : c.tables.any Value.isCallable with
  | true =>
      rw [hcallable] at h
      cases h
  | false =>
      rw [hcallable] at h
      obtain rfl := eq_of_pure_eq_ok h
      refine ⟨fields, [.plain (if c.tables.isEmpty then "" else "FROM"), Query.joined "," tables, joins, wheres, groups,
        havings], orders, rfl, hfields, horders, ?_⟩
      unfold selectParts
      rw [hfields']
      change (c.tables.mapM (fun table => unlessCallable table (SqlBuilder.tableClause d c.aliases table)) >>= _) = _
      rw [htables]
      change (qualifierOf c.aliases c.tables >>= _) = _
      rw [hqualifier]
      change (Join.clause d c.joins >>= _) = _
      rw [hjoins]
      change (Condition.clause d qualifier "WHERE" c.wheres >>= _) = _
      rw [hwheres]
      change (groupClause d c.groupBys >>= _) = _
      rw [hgroups]
      change (Condition.clause d qualifier "HAVING" c.havings >>= _) = _
      rw [hhavings]
      change (if c.tables.any Value.isCallable then _ else _) = _
      rw [hcallable]
      rfl

/-- The clauses are one statement, and another one with the expression in place of their projection and without their
order. -/
structure SwapsTo (d : Dialect) (content : String) (c : Clauses) (q q' : Query) : Prop where
  own : c.select d = .ok q
  swapped : (c.swapped (.raw (.text content) [])).select d = .ok q'
  texts : ∃ fields orders, Field.renderAll d c.projection = .ok fields ∧ OrderTerm.clause d c.orderBys = .ok orders ∧
    Query.Swaps fields orders (.plain content) q q'

theorem select_swapped (content : String) (hdistincts : c.distincts = []) (h : c.select d = .ok q) :
    ∃ q', c.SwapsTo d content q q' := by
  have hown := h
  rw [select_eq] at h
  obtain ⟨distinct, hdistinct, h⟩ := exists_ok_of_bind h
  obtain ⟨parts, hparts, h⟩ := exists_ok_of_bind h
  obtain ⟨top, htop, h⟩ := exists_ok_of_bind h
  obtain ⟨pages, hpages, h⟩ := exists_ok_of_bind h
  obtain ⟨lock, hlock, h⟩ := exists_ok_of_bind h
  obtain rfl := eq_of_pure_eq_ok h
  obtain ⟨fields, middle, orders, rfl, hfields, horders, hparts'⟩ := selectParts_swapped content hdistincts hparts
  have hdistinct' : (c.swapped (.raw (.text content) [])).distinctClause d = .ok distinct := hdistinct
  have htop' : (c.swapped (.raw (.text content) [])).top d = .ok top := htop
  have hpages' : (c.swapped (.raw (.text content) [])).pages d = .ok pages := hpages
  have hlock' : (c.swapped (.raw (.text content) [])).lock d = .ok lock := hlock
  let front : List Query := [.plain "SELECT", distinct, .plain top]
  let back : List Query := pages ++ [.plain lock]
  have hplaced : ∀ (piece : Query) (rest : List Query),
      [.plain "SELECT", distinct] ++ .plain top :: (piece :: (middle ++ rest) ++ pages ++ [.plain lock]) =
        front ++ piece :: (middle ++ (rest ++ back)) := by
    intro piece rest
    simp only [front, back, List.append_assoc, List.cons_append, List.nil_append]
  refine ⟨.clauses (front ++ .plain content :: (middle ++ back)), hown, ?_, fields, orders, hfields, horders, front,
    middle, back, congrArg Query.clauses (hplaced fields [orders]), rfl⟩
  rw [select_eq, hdistinct', hparts', htop', hpages', hlock']
  change Except.ok (Query.clauses _) = _
  have hempty := Query.clauses_empty (front ++ .plain content :: middle) back
  rw [List.append_assoc, List.append_assoc, List.cons_append, List.cons_append] at hempty
  rw [hplaced]
  exact congrArg Except.ok hempty

end Clauses

end SqlBuilder
