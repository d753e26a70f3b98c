import SqlBuilder.Proofs.Session.Qualifying
import SqlBuilder.Proofs.Session.Selecting
import SqlBuilder.Proofs.Statement.Grammar

/-!
The conditions on rows of a compiled statement. They stand behind their keyword as a sentence of the grammar of
conditions as long as no call has declared a sequence without items or a group without conditions.
-/

namespace SqlBuilder

open Act Session

variable {env : Surroundings} {s t : Session} {id : Nat} {b : Builder} {d : Draft} {q : Query}
  {request : StatementRequest} {tree : StatementTree} {conditions : List Condition}

/-- The conditions on the rows that the statement reads or changes. -/
def StatementTree.wheres? : StatementTree → Option (List Condition)
  | .select (.mk clauses _) => some clauses.wheres
  | .update clauses _ => some clauses.wheres
  | .delete clauses _ => some clauses.wheres
  | .insert _ _ _ => none
  | .conditions _ _ => none

/-- What qualifies the columns of these conditions. -/
def StatementTree.qualifier? : StatementTree → Except Fault (Option String)
  | .select (.mk clauses _) => qualifierOf clauses.aliases clauses.tables
  | .update clauses _ => do aliasOf? clauses.aliases (← clauses.target)
  | .delete _ _ => pure none
  | .insert _ _ _ => pure none
  | .conditions _ _ => pure none

/-- The statement has a place for conditions on rows. -/
def StatementRequest.readsRows : StatementRequest → Bool
  | .select => true
  | .update _ => true
  | .delete _ => true
  | .insert _ _ => false
  | .conditions _ => false

namespace Clauses

variable {dialect : Dialect} {c : Clauses} {changed : Value × List Query}

theorem updateParts_eq_ok {data : Value} (h : c.updateParts dialect data = .ok changed) :
    ∃ qualifier front wheres back, (do aliasOf? c.aliases (← c.target)) = .ok qualifier ∧
      Condition.clause dialect qualifier "WHERE" c.wheres = .ok wheres ∧ changed.2 = front ++ wheres :: back := by
  unfold updateParts at h
  cases htruthy : data.isTruthy with
  | false =>
      rw [htruthy] at h
      cases h
  | true =>
      rw [htruthy] at h
      obtain ⟨table, htable, h⟩ := exists_ok_of_bind h
      obtain ⟨qualifier, hqualifier, h⟩ := exists_ok_of_bind h
      obtain ⟨name, -, h⟩ := exists_ok_of_bind h
      obtain ⟨joins, -, h⟩ := exists_ok_of_bind h
      split at h
      · obtain ⟨changes, -, h⟩ := exists_ok_of_bind h
        obtain ⟨wheres, hclause, h⟩ := exists_ok_of_bind h
        obtain ⟨groups, -, h⟩ := exists_ok_of_bind h
        obtain ⟨orders, -, h⟩ := exists_ok_of_bind h
        cases h
        refine ⟨qualifier, [.plain name.sql, joins, .plain "SET " ++ changes], wheres, [groups, orders], ?_, hclause,
          rfl⟩
        rw [htable]
        exact hqualifier
      · cases h

theorem deleteParts_eq_ok {columns : Value} (h : c.deleteParts dialect columns = .ok changed) :
    ∃ front wheres back, Condition.clause dialect none "WHERE" c.wheres = .ok wheres ∧
      changed.2 = front ++ wheres :: back := by
  unfold deleteParts at h
  obtain ⟨table, -, h⟩ := exists_ok_of_bind h
  obtain ⟨joins, -, h⟩ := exists_ok_of_bind h
  obtain ⟨wheres, hclause, h⟩ := exists_ok_of_bind h
  obtain ⟨groups, -, h⟩ := exists_ok_of_bind h
  obtain ⟨orders, -, h⟩ := exists_ok_of_bind h
  obtain ⟨names, -, h⟩ := exists_ok_of_bind h
  obtain ⟨name, -, h⟩ := exists_ok_of_bind h
  cases h
  exact ⟨[.plain names, .plain "FROM", name, joins], wheres, [groups, orders], hclause, rfl⟩

/-- The clauses of a statement that changes rows stand between its verb and the numbers of rows. -/
theorem paged_eq_ok {verb : String} (h : c.paged dialect verb changed = .ok q) :
    ∃ pages, q = .clauses (.plain verb :: (changed.2 ++ pages)) := by
  unfold paged at h
  obtain ⟨pages, -, h⟩ := exists_ok_of_bind h
  obtain ⟨-, -, h⟩ := exists_ok_of_bind h
  exact ⟨pages, (Except.ok.inj h).symm⟩

end Clauses

/-- The conditions on rows are one of the clauses of the statement. -/
theorem StatementTree.exists_clause {dialect : Dialect} (hwheres : tree.wheres? = some conditions)
    (h : tree.render dialect = .ok q) : ∃ qualifier front wheres back members, tree.qualifier? = .ok qualifier ∧
      Condition.clause dialect qualifier "WHERE" conditions = .ok wheres ∧
      q = Query.united (.clauses (front ++ wheres :: back)) members := by
  cases tree with
  | select tree =>
      obtain ⟨clauses, members⟩ := tree
      cases hwheres
      obtain ⟨own, parts, hown, -, rfl⟩ := SelectTree.render_eq_ok h
      obtain ⟨qualifier, front, p, back, hwrite, rfl⟩ := Clauses.select_eq_ok hown
      refine ⟨qualifier, front ++ [p.fields, .plain (if clauses.tables.isEmpty then "" else "FROM"), p.tables, p.joins],
        p.wheres, [p.groups, p.havings, p.orders] ++ back, parts, hwrite.declared, hwrite.wheres, ?_⟩
      simp [Clauses.Pieces.list]
  | update clauses data =>
      cases hwheres
      rw [render, Clauses.update_eq] at h
      obtain ⟨changed, hchanged, h⟩ := exists_ok_of_bind h
      obtain ⟨qualifier, front, wheres, back, hqualifier, hclause, hparts⟩ := Clauses.updateParts_eq_ok hchanged
      obtain ⟨pages, rfl⟩ := Clauses.paged_eq_ok h
      refine ⟨qualifier, .plain "UPDATE" :: front, wheres, back ++ pages, [], hqualifier, hclause, ?_⟩
      rw [hparts, List.append_assoc]
      rfl
  | delete clauses columns =>
      cases hwheres
      rw [render, Clauses.delete_eq] at h
      obtain ⟨changed, hchanged, h⟩ := exists_ok_of_bind h
      obtain ⟨front, wheres, back, hclause, hparts⟩ := Clauses.deleteParts_eq_ok hchanged
      obtain ⟨pages, rfl⟩ := Clauses.paged_eq_ok h
      refine ⟨none, .plain "DELETE" :: front, wheres, back ++ pages, [], rfl, hclause, ?_⟩
      rw [hparts, List.append_assoc]
      rfl
  | insert => cases hwheres
  | conditions => cases hwheres

namespace Resolve

variable {R : Session → Session → Prop} [IsPreorder Session R] {depth draft : Nat} {clauses : Clauses}

theorem updateClauses_comes (hR : Making (Keeps R env)) (hd : ∀ t, R s t → t.drafts[draft]? = some d) {data : Value}
    (h : (updateClauses depth draft data).exec env s = (.ok clauses, t)) :
    List.Forall₂ (Criterion.Comes env depth R s) (d.wheres.getD []) clauses.wheres := by
  unfold updateClauses at h
  rw [exec_bind_ok exec_dialect] at h
  obtain ⟨own, u, hread, h⟩ := exec_bind_eq_ok h
  cases hread
  cases htruthy : data.isTruthy with
  | false =>
      simp only [htruthy, Bool.not_false, if_true] at h
      cases h
  | true =>
      simp only [htruthy, Bool.not_true, Bool.false_eq_true, if_false] at h
      obtain ⟨table, t₁, htable, h⟩ := exec_bind_eq_ok h
      obtain ⟨qualifier, t₂, hqualifier, h⟩ := exec_bind_eq_ok h
      replace h := exec_check_bind_eq_ok h
      obtain ⟨joins, t₃, hjoins, h⟩ := exec_bind_eq_ok h
      have h₁ : R s t₂ := trans_of R ((hR.lift _).of_exec htable) ((hR.lift _).of_exec hqualifier)
      have h₂ : R s t₃ := trans_of R h₁ ((hR.joins depth draft).of_exec hjoins)
      split at h
      · replace h := exec_check_bind_eq_ok h
        obtain ⟨wheres, _, hwheres, h⟩ := exec_bind_eq_ok h
        obtain ⟨groups, _, -, h⟩ := exec_bind_eq_ok h
        obtain ⟨orders, _, -, h⟩ := exec_bind_eq_ok h
        obtain ⟨last, _, -, h⟩ := exec_bind_eq_ok h
        cases h
        exact criteria_eq_ok hR (fun t ht => by rw [hd t ht, Option.getD_some]) h₂ hwheres
      · cases h

theorem deleteClauses_comes (hR : Making (Keeps R env)) (hd : ∀ t, R s t → t.drafts[draft]? = some d)
    (h : (deleteClauses depth draft).exec env s = (.ok clauses, t)) :
    List.Forall₂ (Criterion.Comes env depth R s) (d.wheres.getD []) clauses.wheres := by
  unfold deleteClauses at h
  obtain ⟨own, u, hread, h⟩ := exec_bind_eq_ok h
  cases hread
  replace h := exec_check_bind_eq_ok h
  obtain ⟨joins, u, hjoins, h⟩ := exec_bind_eq_ok h
  obtain ⟨wheres, v, hwheres, h⟩ := exec_bind_eq_ok h
  obtain ⟨groups, _, -, h⟩ := exec_bind_eq_ok h
  obtain ⟨orders, _, -, h⟩ := exec_bind_eq_ok h
  obtain ⟨last, _, -, h⟩ := exec_bind_eq_ok h
  cases h
  have hst : R s u := (hR.joins depth draft).of_exec hjoins
  exact criteria_eq_ok hR (fun t ht => by rw [hd t ht, Option.getD_some]) hst hwheres

end Resolve

/-- What is put together from looks at the draft holds of the statement as a tree. -/
theorem Act.Making.resolve {P : ∀ {α : Type}, Act α → Prop} (h : Making P) (id : Nat) (request : StatementRequest) :
    P (request.resolve id) := by
  refine h.depth_bind (fun env => h.bind (h.draftOf _) fun _ => ?_) fun _ _ hdepth => by simp only [hdepth]
  cases request with
  | select => exact h.bind (h.select _ _) fun _ => h.pure _
  | insert verb data => exact h.bind (h.draftAt _) fun _ => h.pure _
  | update data => exact h.bind (h.updateClauses _ _ _) fun _ => h.pure _
  | delete columns => exact h.bind (h.deleteClauses _ _) fun _ => h.pure _
  | conditions isBound => exact h.bind (h.criteria (h.members _) _ _ _ _) fun _ => h.pure _

namespace StatementRequest

/-- A statement with a place for conditions on rows has those of its clauses. -/
theorem exists_clauses_of_resolve (hb : s.builders[id]? = some b) (hreads : request.readsRows = true)
    (h : (request.resolve id).exec env s = (.ok tree, t)) : ∃ depth clauses u, tree.wheres? = some clauses.wheres ∧
      ((Resolve.selectClauses depth b.draft).exec env s = (.ok clauses, u) ∨
        (∃ data, (Resolve.updateClauses depth b.draft data).exec env s = (.ok clauses, u)) ∨
        (Resolve.deleteClauses depth b.draft).exec env s = (.ok clauses, u)) := by
  unfold resolve at h
  rw [exec_bind_ok (exec_read env s), exec_bind_ok (exec_draftOf hb)] at h
  cases request with
  | select =>
      obtain ⟨tree, u, htree, h⟩ := exec_bind_eq_ok h
      cases h
      rcases hdepth : env.depth with _ | depth
      · rw [hdepth] at htree
        cases htree
      · rw [hdepth, Resolve.select, exec_bind_ok (exec_draftOf hb)] at htree
        obtain ⟨clauses, v, hclauses, htree⟩ := exec_bind_eq_ok htree
        obtain ⟨members, w, -, htree⟩ := exec_bind_eq_ok htree
        cases htree
        exact ⟨depth, clauses, v, rfl, .inl hclauses⟩
  | update data =>
      obtain ⟨clauses, u, hclauses, h⟩ := exec_bind_eq_ok h
      cases h
      exact ⟨env.depth, clauses, _, rfl, .inr (.inl ⟨data, hclauses⟩)⟩
  | delete columns =>
      obtain ⟨clauses, u, hclauses, h⟩ := exec_bind_eq_ok h
      cases h
      exact ⟨env.depth, clauses, _, rfl, .inr (.inr hclauses)⟩
  | insert => cases hreads
  | conditions => cases hreads

/-- The conditions on rows are those that the draft declares. -/
theorem resolve_comes {R : Session → Session → Prop} [IsPreorder Session R] (hR : Making (Keeps R env))
    (hb : s.builders[id]? = some b) (hd : ∀ t, R s t → t.drafts[b.draft]? = some d) (hreads : request.readsRows = true)
    (h : (request.resolve id).exec env s = (.ok tree, t)) (hwheres : tree.wheres? = some conditions) :
    ∃ depth, List.Forall₂ (Criterion.Comes env depth R s) (d.wheres.getD []) conditions := by
  obtain ⟨depth, clauses, u, hclauses, hresolved⟩ := exists_clauses_of_resolve hb hreads h
  obtain rfl := Option.some.inj (hwheres.symm.trans hclauses)
  rcases hresolved with hselect | ⟨data, hupdate⟩ | hdelete
  · exact ⟨depth, (Resolve.selectClauses_comes hR hd hselect).wheres⟩
  · exact ⟨depth, Resolve.updateClauses_comes hR hd hupdate⟩
  · exact ⟨depth, Resolve.deleteClauses_comes hR hd hdelete⟩

end StatementRequest

/-- The conditions on the rows of a projection, an update or a deletion. There is no keyword without a condition. Behind
it is a sentence of the grammar of conditions as long as every sequence and every group among the conditions has a
member, and there is something between all its parentheses as long as there is in those of its symbols. If a sequence
or a group has no member, a pair of parentheses has nothing in between, and the text is no sentence of such symbols. -/
theorem compile_filtered (hs : s.Has id b d) (hreads : request.readsRows = true)
    (h : (compile id request).exec env s = (.ok q, t)) :
    ∃ tree u conditions qualifier front wheres back members,
      (request.resolve id).exec env s = (.ok tree, u) ∧ tree.wheres? = some conditions ∧
      (Confined (UntouchedBelow s.builders.size) env (compile id request) s →
        ∃ depth, List.Forall₂ (Criterion.Comes env depth (UntouchedBelow s.builders.size) s) (d.wheres.getD [])
          conditions) ∧
      q = Query.united (.clauses (front ++ wheres :: back)) members ∧
      (conditions = [] → wheres = .plain "") ∧
      (conditions ≠ [] → ∃ e, wheres = .plain "WHERE " ++ e ∧ tree.qualifier? = .ok qualifier ∧
        Condition.expression (.ofEngine s.driver.engine) qualifier true conditions = .ok e ∧
        (Condition.areFilled conditions = false → e.IsHollow) ∧
        ∀ T, Condition.AllWithin T (.ofEngine s.driver.engine) qualifier conditions →
          (Condition.areFilled conditions = true → T.Criteria e) ∧
          (T.AreFull → (T.Criteria e ↔ Condition.areFilled conditions = true) ∧
            (e.IsFull ↔ Condition.areFilled conditions = true))) := by
  have hid : id < s.builders.size := (Array.getElem?_eq_some_iff.1 hs.builder).1
  have h' := h
  rw [compile_eq, exec_bind_ok exec_dialect] at h
  obtain ⟨tree, u, htree, hrender⟩ := exec_bind_eq_ok h
  rw [exec_lift] at hrender
  obtain ⟨_, clauses, -, hwheres, -⟩ := StatementRequest.exists_clauses_of_resolve hs.builder hreads htree
  obtain ⟨qualifier, front, wheres, back, members, hqualifier, hclause, rfl⟩ :=
    StatementTree.exists_clause hwheres (congrArg Prod.fst hrender)
  obtain ⟨hnone, hsome⟩ := Condition.clause_eq_ok hclause
  refine ⟨tree, u, clauses.wheres, qualifier, front, wheres, back, members, htree, hwheres, fun hscripts => ?_, rfl,
    hnone, fun hne => ?_⟩
  · rw [← hscripts, compile_eq, exec_bind_ok exec_dialect] at h'
    obtain ⟨tree', u', htree', -⟩ := exec_bind_eq_ok h'
    have hwidened := Widens.making.resolve id request s tree' u' htree'
    rw [htree] at hwidened
    cases hwidened
    obtain ⟨depth, hcomes⟩ := StatementRequest.resolve_comes Keeps.untouchedBelow hs.builder
      (fun t ht => (ht id hid b d hs).draft) hreads htree' hwheres
    exact ⟨depth, hcomes.imp fun _ _ => Criterion.Comes.of_within⟩
  · obtain ⟨e, rfl, he⟩ := hsome hne
    exact ⟨e, rfl, hqualifier, he, fun hempty => Condition.isHollow_of_expression hempty he, fun T hwithin =>
      ⟨fun hfilled => Condition.criteria_of_expression hwithin hne hfilled he,
        fun hT => Condition.criteria_iff hT hwithin hne he⟩⟩

/-- The joiners of conditions on rows, and any full texts beside them. -/
def Terminals.ordinary : Terminals where
  opening word := word = "NOT"
  joiner word := word ∈ ["AND", "OR", "AND NOT", "OR NOT"]
  operator word := (Query.plain word).IsFull
  term q := q.IsFull

theorem Joint.within_ordinary : ∀ joiner ∈ ["AND", "OR", "AND NOT", "OR NOT"],
    Joint.Within .ordinary ⟨joiner, false⟩ := by
  have hopening : ∀ joiner ∈ ["AND", "OR", "AND NOT", "OR NOT"], (∀ word ∈ Joint.words ⟨joiner, false⟩ true,
      word = "NOT") ∧ joiner ≠ "" := by decide
  exact fun joiner hjoiner => ⟨(hopening joiner hjoiner).1, (hopening joiner hjoiner).2, hjoiner⟩

/-- Every group asks for a name. -/
def Surroundings.asking : Surroundings :=
  { scriptless 2 with fill := fun _ target =>
      match target with
      | .builder _ id => (Declare.condition id "AND" (.text "name") (.text "=") (.int 1)).run (scriptless 1)
      | _ => throw .typeMismatch }

/-- A group of conditions and a sequence of items. -/
def Draft.sifted (items : List Value) : Draft where
  tables := .declared [.text "people"]
  wheres := some [⟨.group 0, .null, .null, .text "AND", false, none⟩,
    ⟨.text "a", .text "IN", .list items, .text "OR NOT", false, none⟩]

def Condition.sifted : List Condition := [
  .group ⟨"AND", false⟩ [.test ⟨"AND", false⟩ (.text "name") (.text "=") (.int 1)],
  .test ⟨"OR NOT", false⟩ (.text "a") (.text "IN") (.list [.int 1])]

theorem Condition.within_sifted : AllWithin .ordinary (.ofEngine .mysql) none sifted := by
  have hname : ∀ name ∈ ["name", "a"],
      (Query.plain (.ofList ((Dialect.ofEngine .mysql).quoteName name.toList))).IsFull := by decide
  have hoperator : ∀ word ∈ ["=", "IN"], (Query.plain word).IsFull := by decide
  have hplace : (Query.mk "?" [.int 1]).IsFull := by decide
  have hkey : ∀ name ∈ ["name", "a"], ∀ q, comparedKey (.ofEngine .mysql) none (.text name) = .ok q → q.IsFull := by
    intro name hmem q hq
    cases hq
    exact hname name hmem
  have hword : ∀ word ∈ ["=", "IN"], ∀ w, Value.written (.text word) = .ok w → (Query.plain w).IsFull := by
    intro word hmem w hw
    cases hw
    exact hoperator word hmem
  have hone : ∀ v ∈ [Value.int 1], ∀ q, operandOf v = .ok q → q.IsFull := by
    refine List.forall_mem_singleton.2 fun q hq => ?_
    cases hq
    exact hplace
  exact ⟨⟨Joint.within_ordinary "AND" (by decide), ⟨Joint.within_ordinary "AND" (by decide), hkey "name" (by decide),
    hword "=" (by decide), hone⟩, trivial⟩, ⟨Joint.within_ordinary "OR NOT" (by decide), hkey "a" (by decide),
    hword "IN" (by decide), hone⟩, trivial⟩

theorem compile_filtered_naming : ∃ q t front e back members,
    (compile 0 .select).exec .asking (ofDraft .mysql (.sifted [.int 1])) = (.ok q, t) ∧
      q = Query.united (.clauses (front ++ (.plain "WHERE " ++ e) :: back)) members ∧
      e.sql = "(`name` = ?) OR NOT `a` IN (?)" ∧ Terminals.ordinary.Criteria e := by
  obtain ⟨q, hq, -⟩ := exec_eq_ok (compile 0 .select) .asking (ofDraft .mysql (.sifted [.int 1])) (fun _ => ())
    (y := ()) (by decide +kernel)
  obtain ⟨tree, u, conditions, qualifier, front, wheres, back, members, htree, hwheres, -, rfl, -, hsome⟩ :=
    compile_filtered (b := ⟨.query, 0, none, .bool false, .null, none⟩) ⟨rfl, rfl⟩ rfl hq
  cases htree
  obtain rfl : Condition.sifted = conditions := Option.some.inj hwheres
  obtain ⟨e, rfl, hqualifier, he, -, hsentence⟩ := hsome (List.cons_ne_nil _ _)
  obtain rfl : none = qualifier := Except.ok.inj hqualifier
  have hsql : (Condition.expression (.ofEngine .mysql) none true Condition.sifted).toOption.map (·.sql) =
      some "(`name` = ?) OR NOT `a` IN (?)" := by decide +kernel
  have hengine : (ofDraft .mysql (.sifted [.int 1])).driver.engine = .mysql := rfl
  rw [hengine] at he hsentence
  rw [he] at hsql
  exact ⟨_, _, front, e, back, members, hq, rfl, Option.some.inj hsql,
    (hsentence .ordinary Condition.within_sifted).1 (by decide)⟩

/-- A sequence without items and a group without conditions are written between parentheses all the same, which is no
sentence as long as there is something in between in every symbol. -/
theorem not_compile_filtered :
    selection (behind (tables #[]) [(0, .condition "AND" (.text "a") (.text "IN") (.list []))]) 0 =
      some "SELECT * FROM `people` WHERE `a` IN ()" ∧
    selection (behind (tables #[⟨[], .value .null⟩]) [(0, .condition "AND" (.group 0) .null .null)]) 0 =
      some "SELECT * FROM `people` WHERE ()" ∧
    ∀ T : Terminals, T.AreFull → ∀ values, ¬T.Criteria ⟨"`a` IN ()", values⟩ ∧ ¬T.Criteria ⟨"()", values⟩ := by
  have hitems : "`a` IN ".toList ++ ['(', ')'] ++ [] = "`a` IN ()".toList := by decide
  have hgroup : [] ++ ['(', ')'] ++ [] = "()".toList := by decide
  have hno : ∀ {q : Query}, q.IsHollow → ∀ T : Terminals, T.AreFull → ¬T.Criteria q :=
    fun hhollow T hT h => (h.isFull hT).not_isHollow hhollow
  refine ⟨by decide +kernel, by decide +kernel, fun T hT values => ⟨hno ?_ T hT, hno ?_ T hT⟩⟩
  · exact ⟨_, [], hitems⟩
  · exact ⟨[], [], hgroup⟩

end SqlBuilder
