import SqlBuilder.Proofs.Session.Places
import SqlBuilder.Proofs.Statement.Limit

/-!
The limit of what a builder compiles. A tree has the limit that its draft declares when the clauses in front of it have
been read. The compiled statement has the words for that limit in their place, unless it is an update or a deletion for
an engine that takes them behind the verb.
-/

namespace SqlBuilder

theorem Act.exec_check {α : Type} (outcome : Except Fault α) (env : Surroundings) (s : Session) :
    (Act.check outcome).exec env s = (outcome.map fun _ => (), s) := by
  unfold Act.check
  rw [Act.exec_bind, Act.exec_lift]
  cases outcome <;> rfl

namespace Resolve

variable {env : Surroundings} {s s' : Session} {draft depth : Nat}

/-- The numbers of rows are those that the draft declares at the end. -/
theorem limit_withPages {c clauses : Clauses}
    (h : (do pure (withPages c (← Act.draftAt draft)) : Act Clauses).exec env s = (.ok clauses, s')) :
    clauses.limit = number (s'.drafts[draft]?.getD {}).limit := by
  cases h
  rfl

theorem limit_selectClauses {clauses : Clauses} (h : (selectClauses depth draft).exec env s = (.ok clauses, s')) :
    clauses.limit = number (s'.drafts[draft]?.getD {}).limit := by
  unfold selectClauses at h
  iterate 10 obtain ⟨_, _, _, h⟩ := Act.exec_bind_eq_ok h
  obtain ⟨d, t, hdraft, h⟩ := Act.exec_bind_eq_ok h
  obtain ⟨_, u, hcheck, h⟩ := Act.exec_bind_eq_ok h
  rw [Act.exec_check] at hcheck
  rw [Act.exec_pure] at h
  cases congrArg Prod.snd hcheck
  cases h
  cases hdraft
  rfl

theorem limit_updateClauses {clauses : Clauses} {data : Value}
    (h : (updateClauses depth draft data).exec env s = (.ok clauses, s')) :
    clauses.limit = number (s'.drafts[draft]?.getD {}).limit := by
  unfold updateClauses at h
  iterate 2 obtain ⟨_, _, _, h⟩ := Act.exec_bind_eq_ok h
  cases htruthy : data.isTruthy with
  | false =>
      simp only [htruthy, Bool.not_false, if_true] at h
      obtain ⟨_, _, hthrow, -⟩ := Act.exec_bind_eq_ok h
      cases hthrow
  | true =>
      simp only [htruthy, Bool.not_true, Bool.false_eq_true, if_false] at h
      iterate 4 obtain ⟨_, _, _, h⟩ := Act.exec_bind_eq_ok h
      split at h
      · iterate 4 obtain ⟨_, _, _, h⟩ := Act.exec_bind_eq_ok h
        exact limit_withPages h
      · cases h

theorem limit_deleteClauses {clauses : Clauses} (h : (deleteClauses depth draft).exec env s = (.ok clauses, s')) :
    clauses.limit = number (s'.drafts[draft]?.getD {}).limit := by
  unfold deleteClauses at h
  iterate 6 obtain ⟨_, _, _, h⟩ := Act.exec_bind_eq_ok h
  exact limit_withPages h

end Resolve

namespace StatementRequest

/-- The limit that the builder declares when a statement is compiled. An update or a deletion reads it when all groups
have run, a projection when those of its own clauses have; the groups of what it is united with run later. -/
def Declares (request : StatementRequest) (env : Surroundings) (s s' : Session) (b : Builder) (limit : Option Value) :
    Prop :=
  match request with
  | select => ∃ depth clauses u, env.depth = depth + 1 ∧
    (Resolve.selectClauses depth b.draft).exec env s = (.ok clauses, u) ∧
    limit = Resolve.number (u.drafts[b.draft]?.getD {}).limit
  | update _ => limit = Resolve.number (s'.drafts[b.draft]?.getD {}).limit
  | delete _ => limit = Resolve.number (s'.drafts[b.draft]?.getD {}).limit
  | _ => limit = none

/-- A statement has the limit that its builder declares. -/
theorem declares_of_resolve {env : Surroundings} {s s' : Session} {id : Nat} {b : Builder} {request : StatementRequest}
    {t : StatementTree} (hb : s.builders[id]? = some b) (h : (request.resolve id).exec env s = (.ok t, s')) :
    request.Declares env s s' b t.limit? := by
  unfold resolve at h
  rw [Act.exec_bind_ok (Act.exec_read env s), Act.exec_bind_ok (Act.exec_draftOf hb)] at h
  cases request with
  | select =>
      obtain ⟨tree, v, htree, hpure⟩ := Act.exec_bind_eq_ok h
      cases hpure
      cases hdepth : env.depth with
      | zero =>
          rw [hdepth] at htree
          cases htree
      | succ depth =>
          rw [hdepth, Resolve.select, Act.exec_bind_ok (Act.exec_draftOf hb)] at htree
          obtain ⟨clauses, u, hclauses, htree⟩ := Act.exec_bind_eq_ok htree
          obtain ⟨members, w, -, hpure⟩ := Act.exec_bind_eq_ok htree
          cases hpure
          exact ⟨depth, clauses, u, hdepth, hclauses, Resolve.limit_selectClauses hclauses⟩
  | update data =>
      obtain ⟨clauses, u, hclauses, hpure⟩ := Act.exec_bind_eq_ok h
      cases hpure
      exact Resolve.limit_updateClauses hclauses
  | delete columns =>
      obtain ⟨clauses, u, hclauses, hpure⟩ := Act.exec_bind_eq_ok h
      cases hpure
      exact Resolve.limit_deleteClauses hclauses
  | insert verb data =>
      obtain ⟨_, _, _, hpure⟩ := Act.exec_bind_eq_ok h
      cases hpure
      rfl
  | conditions isBound =>
      obtain ⟨_, _, _, hpure⟩ := Act.exec_bind_eq_ok h
      cases hpure
      rfl

end StatementRequest

/-- A statement has the limit that its builder declares. Compiled, it has the words for that limit in their place, and
is the same without them. Only updates and deletions for SQL Server are excluded. -/
theorem compile_limited {env : Surroundings} {s s' s'' : Session} {id : Nat} {request : StatementRequest}
    {t : StatementTree} {q : Query} (htree : (request.resolve id).exec env s = (.ok t, s'))
    (hq : (compile id request).exec env s = (.ok q, s''))
    (htakes : s.driver.engine = .sqlserver → ∃ tree, t = .select tree) :
    (∀ b, s.builders[id]? = some b → request.Declares env s s' b t.limit?) ∧
    ∀ v, t.limit? = some v →
      ∃ number p front back, v.written = .ok number ∧ t.unlimited.render (.ofEngine s.driver.engine) = .ok p ∧
        Query.Adds ((Dialect.ofEngine s.driver.engine).limitWords number) front back p q ∧
        t.IsLimitPlace (.ofEngine s.driver.engine) front back := by
  rw [exec_compile htree] at hq
  refine ⟨fun b hb => StatementRequest.declares_of_resolve hb htree, fun v hlimit => ?_⟩
  refine StatementTree.render_limited hlimit ?_ (congrArg Prod.fst hq)
  cases hengine : s.driver.engine with
  | sqlserver =>
      obtain ⟨tree, rfl⟩ := htakes hengine
      rfl
  | _ => cases t <;> rfl

/-- The limit of an update stands behind its conditions. -/
theorem compile_limited_update : ∃ p front,
    Query.Adds "LIMIT 3" front "" p ⟨"UPDATE `t` SET `b` = ? WHERE `a` = ? LIMIT 3", [.text "x", .int 1]⟩ := by
  have htree : ((StatementRequest.update (.map [(.text "b", .text "x")])).resolve 0).exec (.scriptless 1)
      (.ofDraft .mysql { Draft.matching "t" "a" (.int 1) with limit := some (.int 3) }) =
      (.ok (.update { Clauses.matching "t" "a" (.int 1) with limit := some (.int 3) }
        (.map [(.text "b", .text "x")])),
        .ofDraft .mysql { Draft.matching "t" "a" (.int 1) with limit := some (.int 3) }) := by
    rfl
  have hrender : (StatementTree.update { Clauses.matching "t" "a" (.int 1) with limit := some (.int 3) }
      (.map [(.text "b", .text "x")])).render (.ofEngine .mysql) =
      .ok ⟨"UPDATE `t` SET `b` = ? WHERE `a` = ? LIMIT 3", [.text "x", .int 1]⟩ :=
    StatementTree.render_eq_of_sql (by decide +kernel)
  have hq := (exec_compile htree).trans (congrArg (·, _) hrender)
  obtain ⟨number, p, front, back, hnumber, -, hadds, offset, hoffset, hback⟩ :=
    (compile_limited htree hq fun hengine => by cases hengine).2 _ rfl
  cases hnumber
  cases hoffset
  rw [hback] at hadds
  exact ⟨p, front, hadds⟩

/-- A deletion for SQL Server is compiled without its limit, and so concerns all rows. -/
theorem not_compile_limited_delete : ∃ (t : StatementTree) (q : Query) (s : Session),
    s = .ofDraft .sqlserver { Draft.over (.text "people") with limit := some (.int 5) } ∧
      ((StatementRequest.delete .null).resolve 0).exec (.scriptless 1) s = (.ok t, s) ∧ t.limit? = some (.int 5) ∧
      (compile 0 (.delete .null)).exec (.scriptless 1) s = (.ok q, s) ∧ q.sql = "DELETE FROM [people]" ∧
      ¬∃ words front back p, t.unlimited.render (.ofEngine .sqlserver) = .ok p ∧ Query.Adds words front back p q := by
  have hrender : (StatementTree.delete { Resolve.opening (Draft.over (.text "people")) with limit := some (.int 5) }
      .null).render (.ofEngine .sqlserver) = .ok ⟨"DELETE FROM [people]", []⟩ :=
    StatementTree.render_eq_of_sql (by decide +kernel)
  refine ⟨.delete { Resolve.opening (Draft.over (.text "people")) with limit := some (.int 5) } .null, _, _, rfl, rfl,
    rfl, (exec_compile rfl).trans (congrArg (·, _) hrender), rfl, ?_⟩
  rintro ⟨words, front, back, p, hp, hadds⟩
  rw [StatementTree.render_unlimited rfl, hrender] at hp
  cases hp
  exact Query.not_adds_self hadds

end SqlBuilder
