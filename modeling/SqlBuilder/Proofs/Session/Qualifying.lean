import SqlBuilder.Proofs.Session.Independence
import SqlBuilder.Proofs.Session.Selecting
import SqlBuilder.Proofs.Statement.Qualifying

/-!
The alias of a table as the qualifier of columns that have none. In a compiled projection it qualifies the columns of
the conditions on rows, but not those of their groups.
-/

namespace SqlBuilder

open Act Session

variable {env : Surroundings} {s t : Session} {id : Nat} {b : Builder} {d : Draft} {q : Query} {table a : String}

/-- A projection from one table with an alias. Its conditions stand in it with the alias in front of every column that
has no qualifier and is not in a group. They would have it in front of those in groups as well, at every depth, exactly
if there are none. -/
theorem compile_select_qualified (hs : s.Has id b d) (htable : d.tables.toList = [.text table])
    (halias : Value.lookup? (.text table) (d.aliases.getD []) = some a)
    (h : (compile id .select).exec env s = (.ok q, t)) :
    ∃ c own members u front bare wheres uniform back,
      (Resolve.selectClauses (env.depth - 1) b.draft).exec env s = (.ok c, u) ∧
      (Confined (UntouchedBelow s.builders.size) env (compile id .select) s →
        List.Forall₂ (Criterion.Comes env (env.depth - 1) (UntouchedBelow s.builders.size) s) (d.wheres.getD [])
          c.wheres) ∧
      q = own.united members ∧ own = Query.clauses (front ++ wheres :: back) ∧
      Condition.clause (.ofEngine s.driver.engine) none "WHERE" c.wheres = .ok bare ∧
      Condition.clause (.ofEngine s.driver.engine) (some a) "WHERE" c.wheres = .ok wheres ∧
      Condition.uniformClause (.ofEngine s.driver.engine) a "WHERE" c.wheres = .ok uniform ∧
      bare.Inserted (a ++ ".") (Condition.exposedOf (.ofEngine s.driver.engine) c.wheres) wheres ∧
      wheres.Inserted (a ++ ".") (Condition.shelteredOf (.ofEngine s.driver.engine) c.wheres) uniform ∧
      (wheres = uniform ↔ Condition.shelteredOf (.ofEngine s.driver.engine) c.wheres = 0) := by
  obtain ⟨c, own, members, u, hclauses, hown, hq⟩ := compile_select_eq_ok hs.builder h
  obtain ⟨js, ws, hs', _, t₁, t₂, -, -, -, hc⟩ := Resolve.exec_selectClauses_eq_ok hclauses
  rw [hs.draft, Option.getD_some] at hc
  obtain ⟨qualifier, front, p, back, hwrite, rfl⟩ := Clauses.select_eq_ok hown
  have hqualifier : qualifier = some a := by
    have hdeclared := hwrite.declared
    rw [hc] at hdeclared
    change qualifierOf (d.aliases.getD []) d.tables.toList = _ at hdeclared
    rw [htable] at hdeclared
    change Except.ok (Value.lookup? (.text table) (d.aliases.getD [])) = _ at hdeclared
    rw [halias] at hdeclared
    exact (Except.ok.inj hdeclared).symm
  have hwheres := hwrite.wheres
  rw [hqualifier] at hwheres
  obtain ⟨hbare, huniform⟩ := Condition.clause_cases (.ofEngine s.driver.engine) a "WHERE" c.wheres
  rw [hwheres] at hbare huniform
  obtain ⟨uniform, huniform, hsheltered⟩ := huniform.exists_ok
  obtain ⟨bare, hbare, hexposed⟩ := hbare.symm.exists_ok
  refine ⟨c, _, members, u, front ++ [p.fields, .plain (if c.tables.isEmpty then "" else "FROM"), p.tables, p.joins],
    bare, p.wheres, uniform, [p.groups, p.havings, p.orders] ++ back, hclauses,
    fun hscripts => (hs.comes hscripts h hclauses).wheres, hq, ?_, hbare, hwheres, huniform, hexposed, hsheltered,
    hsheltered.eq_iff ?_⟩
  · simp [Clauses.Pieces.list]
  · intro hempty
    have hlength := congrArg String.length hempty
    rw [String.length_append] at hlength
    exact absurd (Nat.add_eq_zero_iff.1 hlength).2 (by decide)

/-- A column that is not in a group. -/
theorem compile_select_qualified_column : ∃ q t own front wheres back members,
    (compile 0 .select).exec (.scriptless 1) (.ofDraft .postgresql { Draft.matching "people" "name" (.int 1) with
      aliases := some [(.text "people", "x")] }) = (.ok q, t) ∧
      q = .united own members ∧ own = .clauses (front ++ wheres :: back) ∧ wheres.sql = "WHERE x.\"name\" = ?" := by
  obtain ⟨q, hq, -⟩ := exec_eq_ok (compile 0 .select) (.scriptless 1) (.ofDraft .postgresql {
    Draft.matching "people" "name" (.int 1) with aliases := some [(.text "people", "x")] }) (fun q => q.sql)
    (y := "SELECT * FROM \"people\" AS \"x\" WHERE x.\"name\" = ?") (by decide +kernel)
  obtain ⟨c, own, members, u, front, bare, wheres, uniform, back, hclauses, -, rfl, rfl, -, hwheres, -⟩ :=
    @compile_select_qualified _ _ _ _ _ _ _ "people" "x" ⟨rfl, rfl⟩ rfl rfl hq
  refine ⟨_, _, _, front, wheres, back, members, hq, rfl, rfl, ?_⟩
  obtain ⟨c', hclauses', hsql⟩ := exec_eq_ok (Resolve.selectClauses 0 0) (.scriptless 1) (.ofDraft .postgresql {
    Draft.matching "people" "name" (.int 1) with aliases := some [(.text "people", "x")] })
    (fun c => (Condition.clause (.ofEngine .postgresql) (some "x") "WHERE" c.wheres).toOption.map (·.sql))
    (y := some "WHERE x.\"name\" = ?") (by decide +kernel)
  obtain rfl : c = c' := Except.ok.inj ((congrArg Prod.fst hclauses).symm.trans (congrArg Prod.fst hclauses'))
  change (Condition.clause (.ofEngine .postgresql) _ _ _) = _ at hwheres
  rw [hwheres] at hsql
  exact Option.some.inj hsql

/-- A group that declares a condition on a column. -/
def naming : Script where
  steps := [.mk "where" [.value (.text "name"), .value (.text "="), .value (.int 1)] [] {} [] default]
  answer := .value .null

/-- The same column has the alias in front of it, and does not have it in a group. -/
theorem not_compile_select_qualified :
    selection (behind (tables #[naming]) [(0, .nameTable (.text "x") .null),
      (0, .condition "AND" (.text "name") (.text "=") (.int 1))]) 0 =
        some "SELECT * FROM `people` AS `x` WHERE x.`name` = ?" ∧
    selection (behind (tables #[naming]) [(0, .nameTable (.text "x") .null),
      (0, .condition "AND" (.group 0) .null .null)]) 0 =
        some "SELECT * FROM `people` AS `x` WHERE (`name` = ?)" := by
  exact ⟨by decide +kernel, by decide +kernel⟩

end SqlBuilder
