import SqlBuilder.Proofs.Session.Limit
import SqlBuilder.Proofs.Session.Untouched

/-!
What a projection is written from. Its tables and their aliases are those that the draft declares when it is compiled.
So are all its other clauses, as long as the scripts of groups leave alone what has been declared before them.
-/

namespace SqlBuilder

open Act Session

variable {α : Type} {env : Surroundings} {s t u : Session} {id n depth : Nat} {b : Builder} {d : Draft}

/-- A check that has been passed leaves everything as it is. -/
theorem Act.exec_check_bind_eq_ok {β : Type} {outcome : Except Fault α} {k : Unit → Act β} {y : β}
    (h : (Act.check outcome >>= k).exec env s = (.ok y, t)) : (k ()).exec env s = (.ok y, t) := by
  obtain ⟨⟨⟩, u, hcheck, h⟩ := exec_bind_eq_ok h
  rw [exec_check] at hcheck
  cases congrArg Prod.snd hcheck
  exact h

/-! ### The clauses in writing -/

/-- The clauses of a projection in writing, from its fields to its orders. -/
structure Clauses.Pieces where
  fields : Query
  tables : Query
  joins : Query
  wheres : Query
  groups : Query
  havings : Query
  orders : Query

namespace Clauses.Pieces

/-- The clauses in the order in which they stand. -/
def list (c : Clauses) (p : Pieces) : List Query :=
  [p.fields, .plain (if c.tables.isEmpty then "" else "FROM"), p.tables, p.joins, p.wheres, p.groups, p.havings,
    p.orders]

/-- What the clauses are in writing. -/
structure Write (d : Dialect) (c : Clauses) (qualifier : Option String) (p : Pieces) : Prop where
  declared : qualifierOf c.aliases c.tables = .ok qualifier
  fields : Field.renderAll d c.projection = .ok p.fields
  tables : ∃ tables, (c.tables.mapM fun table => unlessCallable table (tableClause d c.aliases table)) = .ok tables ∧
    p.tables = .joined "," tables
  joins : Join.clause d c.joins = .ok p.joins
  wheres : Condition.clause d qualifier "WHERE" c.wheres = .ok p.wheres
  groups : groupClause d c.groupBys = .ok p.groups
  havings : Condition.clause d qualifier "HAVING" c.havings = .ok p.havings
  orders : OrderTerm.clause d c.orderBys = .ok p.orders

end Clauses.Pieces

/-- The clauses stand between the words behind the verb and the numbers of rows. -/
theorem Clauses.select_eq_ok {d : Dialect} {c : Clauses} {own : Query} (h : c.select d = .ok own) :
    ∃ qualifier front p back, Pieces.Write d c qualifier p ∧ own = Query.clauses (front ++ p.list c ++ back) := by
  rw [select_eq] at h
  obtain ⟨distinct, -, h⟩ := exists_ok_of_bind h
  obtain ⟨parts, hparts, h⟩ := exists_ok_of_bind h
  obtain ⟨top, -, h⟩ := exists_ok_of_bind h
  obtain ⟨pages, -, h⟩ := exists_ok_of_bind h
  obtain ⟨lock, -, h⟩ := exists_ok_of_bind h
  obtain rfl := Except.ok.inj h
  obtain ⟨tables, htables, hparts⟩ := exists_ok_of_bind hparts
  obtain ⟨qualifier, hqualifier, hparts⟩ := exists_ok_of_bind hparts
  obtain ⟨joins, hjoins, hparts⟩ := exists_ok_of_bind hparts
  obtain ⟨wheres, hwheres, hparts⟩ := exists_ok_of_bind hparts
  obtain ⟨groups, hgroups, hparts⟩ := exists_ok_of_bind hparts
  obtain ⟨havings, hhavings, hparts⟩ := exists_ok_of_bind hparts
  obtain ⟨orders, horders, hparts⟩ := exists_ok_of_bind hparts
  obtain ⟨fields, hfields, hparts⟩ := exists_ok_of_bind hparts
  cases hcallable : c.tables.any Value.isCallable with
  | true =>
      rw [hcallable, if_pos rfl] at hparts
      cases hparts
  | false =>
  rw [hcallable, if_neg Bool.false_ne_true] at hparts
  cases hparts
  refine ⟨qualifier, [.plain "SELECT", distinct, .plain top],
    ⟨fields, .joined "," tables, joins, wheres, groups, havings, orders⟩, pages ++ [.plain lock],
    ⟨hqualifier, hfields, ⟨tables, htables, rfl⟩, hjoins, hwheres, hgroups, hhavings, horders⟩, ?_⟩
  simp [Pieces.list]

/-- A builder compiles to its own projection, with what it is united with behind it. -/
theorem compile_select_eq_ok {q : Query} (hb : s.builders[id]? = some b)
    (h : (compile id .select).exec env s = (.ok q, t)) :
    ∃ clauses own members u, (Resolve.selectClauses (env.depth - 1) b.draft).exec env s = (.ok clauses, u) ∧
      clauses.select (.ofEngine s.driver.engine) = .ok own ∧ q = own.united members := by
  rw [exec_compile_select hb] at h
  unfold projected at h
  rw [exec_bind_ok exec_dialect] at h
  obtain ⟨tree, u, htree, h⟩ := exec_bind_eq_ok h
  cases hdepth : env.depth with
  | zero =>
      rw [hdepth] at htree
      cases htree
  | succ depth =>
      rw [hdepth, Resolve.select, exec_bind_ok (exec_draftOf hb)] at htree
      obtain ⟨clauses, v, hclauses, htree⟩ := exec_bind_eq_ok htree
      obtain ⟨members, w, -, htree⟩ := exec_bind_eq_ok htree
      cases htree
      rw [exec_lift] at h
      obtain ⟨own, parts, hown, -, hq⟩ := SelectTree.render_eq_ok (congrArg Prod.fst h)
      exact ⟨clauses, own, parts, v, hclauses, hown, hq⟩

/-! ### The clauses and the draft -/

/-- The first builders are as before, and so are their drafts. -/
def Session.UntouchedBelow (n : Nat) (s t : Session) : Prop := ∀ k < n, Untouched k s t

instance : IsPreorder Session (UntouchedBelow n) where
  refl s k _ := refl_of (Untouched k) s
  trans _ _ _ h h' k hk := trans_of (Untouched k) (h k hk) (h' k hk)

/-- Whatever compiles leaves builders alone that have been there before, as long as the scripts do. -/
theorem Act.Keeps.untouchedBelow [env.Keeps (UntouchedBelow n)] : Making (Keeps (UntouchedBelow n) env) :=
  Keeps.making
    (fun _ _ _ _ => .of_grown (fun _ _ => getElem?_push_of_some) fun _ _ => getElem?_push_of_some)
    fun _ _ _ _ => .of_eq rfl rfl

/-- What a declared condition is compiled to. The members of a group are those that its script declares. -/
inductive Criterion.Comes (env : Surroundings) (depth : Nat) (R : Session → Session → Prop) (s : Session)
    (c : Criterion) : Condition → Prop
  | test {joint : Joint} (hcolumns : c.columns = none) (hgroup : (c.key.isCallable && c.operand.isNull) = false) :
      Comes env depth R s c (.test joint c.key c.operator c.operand)
  | group {joint : Joint} {script : Nat} {members : List Condition} {t u : Session} (hcolumns : c.columns = none)
      (hkey : c.key = .group script) (hnull : c.operand.isNull = true) (hst : R s t)
      (hmembers : (Resolve.members depth script).exec env t = (.ok members, u)) :
      Comes env depth R s c (.group joint members)
  | columns {joint : Joint} {names : List Value} (hcolumns : c.columns = some names) :
      Comes env depth R s c (.columns joint names)

/-- What a declared join is compiled to. Its conditions are those of its builder, if that is left alone. -/
structure DraftJoin.Comes (env : Surroundings) (depth : Nat) (R : Session → Session → Prop) (s : Session)
    (j : DraftJoin) (join : Join) : Prop where
  kind : j.kind = .text join.kind
  table : join.table = j.table
  unconditional : j.builder = none → join.conditions = none
  conditions : ∀ k ∈ j.builder, ∀ own d, (∀ t, R s t → t.Has k own d) →
    ∃ conditions, join.conditions = some conditions ∧
      List.Forall₂ (Criterion.Comes env depth R s) (d.criteria.getD []) conditions

structure Draft.Comes (env : Surroundings) (depth : Nat) (R : Session → Session → Prop) (s : Session) (d : Draft)
    (c : Clauses) : Prop where
  joins : List.Forall₂ (DraftJoin.Comes env depth R s) (d.joins.getD []) c.joins
  wheres : List.Forall₂ (Criterion.Comes env depth R s) (d.wheres.getD []) c.wheres
  havings : List.Forall₂ (Criterion.Comes env depth R s) (d.havings.getD []) c.havings
  others : c = Resolve.withPages { Resolve.opening d with
    joins := c.joins, wheres := c.wheres, groupBys := d.groupBys.getD [], havings := c.havings,
    orderBys := d.orderBys.getD [] } d

namespace Resolve

theorem exec_groupBys_eq_ok {draft : Nat} {fields : List Value} (h : (groupBys draft).exec env s = (.ok fields, t)) :
    fields = (s.drafts[draft]?.getD {}).groupBys.getD [] ∧ t = s := by
  unfold groupBys at h
  obtain ⟨d, u, hread, h⟩ := exec_bind_eq_ok h
  cases hread
  rw [exec_bind_ok exec_dialect] at h
  cases exec_check_bind_eq_ok h
  exact ⟨rfl, rfl⟩

theorem exec_orderBys_eq_ok {draft : Nat} {terms : List OrderTerm}
    (h : (orderBys draft).exec env s = (.ok terms, t)) :
    terms = (s.drafts[draft]?.getD {}).orderBys.getD [] ∧ t = s := by
  unfold orderBys at h
  obtain ⟨d, u, hread, h⟩ := exec_bind_eq_ok h
  cases hread
  rw [exec_bind_ok exec_dialect] at h
  cases exec_check_bind_eq_ok h
  exact ⟨rfl, rfl⟩

/-- The conditions are read behind the joins, those on groups of rows behind them, and the numbers of rows at last. -/
theorem exec_selectClauses_eq_ok {draft : Nat} {clauses : Clauses}
    (h : (selectClauses depth draft).exec env s = (.ok clauses, u)) :
    ∃ js ws hs qualifier t₁ t₂, (joins depth draft).exec env s = (.ok js, t₁) ∧
      (bound depth qualifier (·.wheres) draft).exec env t₁ = (.ok ws, t₂) ∧
      (bound depth qualifier (·.havings) draft).exec env t₂ = (.ok hs, u) ∧
      clauses = withPages { opening (s.drafts[draft]?.getD {}) with
        joins := js, wheres := ws, groupBys := (t₂.drafts[draft]?.getD {}).groupBys.getD [], havings := hs,
        orderBys := (u.drafts[draft]?.getD {}).orderBys.getD [] } (u.drafts[draft]?.getD {}) := by
  have hread : ∀ s : Session, (Act.draftAt draft).exec env s = (.ok (s.drafts[draft]?.getD {}), s) := fun _ => rfl
  unfold selectClauses at h
  rw [exec_bind_ok exec_dialect, exec_bind_ok (hread s)] at h
  replace h := exec_check_bind_eq_ok (exec_check_bind_eq_ok h)
  obtain ⟨qualifier, t, hqualifier, h⟩ := exec_bind_eq_ok h
  rw [exec_lift] at hqualifier
  cases congrArg Prod.snd hqualifier
  obtain ⟨js, t₁, hjs, h⟩ := exec_bind_eq_ok h
  obtain ⟨ws, t₂, hws, h⟩ := exec_bind_eq_ok h
  obtain ⟨groups, _, hgroups, h⟩ := exec_bind_eq_ok h
  obtain ⟨rfl, rfl⟩ := exec_groupBys_eq_ok hgroups
  obtain ⟨hs, v, hhs, h⟩ := exec_bind_eq_ok h
  obtain ⟨orders, _, horders, h⟩ := exec_bind_eq_ok h
  obtain ⟨rfl, rfl⟩ := exec_orderBys_eq_ok horders
  rw [exec_bind_ok (hread _)] at h
  cases exec_check_bind_eq_ok h
  exact ⟨js, ws, hs, qualifier, _, _, hjs, hws, hhs, rfl⟩

section Relation

variable {R : Session → Session → Prop}

theorem criterion_eq_ok {isFirst : Bool} {c : Criterion} {condition : Condition} (hst : R s t)
    (h : (criterion (members depth) isFirst c).exec env t = (.ok condition, u)) :
    c.Comes env depth R s condition := by
  unfold criterion at h
  obtain ⟨joint, v, hjoint, h⟩ := exec_bind_eq_ok h
  rw [exec_lift] at hjoint
  cases congrArg Prod.snd hjoint
  cases hcolumns : c.columns with
  | some names =>
      rw [hcolumns] at h
      cases h
      exact .columns hcolumns
  | none =>
      rw [hcolumns] at h
      cases hgroup : c.key.isCallable && c.operand.isNull with
      | false =>
          rw [hgroup] at h
          cases h
          exact .test hcolumns hgroup
      | true =>
          rw [hgroup] at h
          dsimp only at h
          rw [if_pos rfl] at h
          split at h
          · rename_i script hkey
            obtain ⟨members, w, hmembers, h⟩ := exec_bind_eq_ok h
            cases h
            exact .group hcolumns hkey (Bool.and_eq_true_iff.1 hgroup).2 hst hmembers
          · cases h
          · cases h

variable [IsPreorder Session R] (hR : Making (Keeps R env))

include hR

/-- Conditions are compiled one by one, each from what has been declared. -/
theorem criteria_forall₂ {S : Criterion → Condition → Prop} {qualifier : Option String} {isBound : Bool}
    {list : Draft → Option (List Criterion)} {draft : Nat} {entries : List Criterion} {conditions : List Condition}
    (hS : ∀ isFirst c condition v w, R s v →
      (criterion (members depth) isFirst c).exec env v = (.ok condition, w) → S c condition)
    (hlist : ∀ t, R s t → (list (t.drafts[draft]?.getD {})).getD [] = entries) (hst : R s t)
    (h : (criteria (members depth) qualifier isBound list draft).exec env t = (.ok conditions, u)) :
    List.Forall₂ S entries conditions := by
  unfold criteria at h
  obtain ⟨made, v, hmade, h⟩ := exec_bind_eq_ok h
  have hconditions : conditions = made.map (·.1) := by
    split at h
    · cases h
    · cases h
      rfl
  rw [hconditions, List.forall₂_map_right_iff]
  refine (each_eq_ok (fun place c => ?_) hlist hst hmade).imp fun c x hx => ?_
  · exact hR.bind (hR.criterion (hR.members depth) _ c) fun _ =>
      hR.bind hR.dialect fun _ => hR.bind (hR.check _) fun _ => hR.pure _
  · obtain ⟨place, v, w, hsv, hx⟩ := hx
    obtain ⟨condition, w, hcondition, hx⟩ := exec_bind_eq_ok hx
    rw [exec_bind_ok exec_dialect] at hx
    cases exec_check_bind_eq_ok hx
    exact hS _ c condition v w hsv hcondition

theorem criteria_eq_ok {qualifier : Option String} {isBound : Bool} {list : Draft → Option (List Criterion)}
    {draft : Nat} {entries : List Criterion} {conditions : List Condition}
    (hlist : ∀ t, R s t → (list (t.drafts[draft]?.getD {})).getD [] = entries) (hst : R s t)
    (h : (criteria (members depth) qualifier isBound list draft).exec env t = (.ok conditions, u)) :
    List.Forall₂ (Criterion.Comes env depth R s) entries conditions :=
  criteria_forall₂ hR (fun _ _ _ _ _ => criterion_eq_ok) hlist hst h

omit [IsPreorder Session R] hR in
/-- A join has the conditions of its builder. -/
theorem exec_join_eq_ok {j : DraftJoin} {join : Join} (h : (Resolve.join depth j).exec env t = (.ok join, u)) :
    j.kind = .text join.kind ∧ join.table = j.table ∧ (j.builder = none → join.conditions = none) ∧
      ∀ k ∈ j.builder, ∃ conditions v, join.conditions = some conditions ∧
        (do criteria (members depth) none false (·.criteria) (← Act.draftOf k)).exec env t = (.ok conditions, v) := by
  unfold Resolve.join at h
  rw [exec_bind_ok exec_dialect] at h
  replace h := exec_check_bind_eq_ok h
  obtain ⟨conditions, v, hconditions, h⟩ := exec_bind_eq_ok h
  split at h
  · rename_i kind hkind
    cases exec_check_bind_eq_ok h
    refine ⟨hkind, rfl, fun hnone => ?_, fun k hk => ?_⟩
    · rw [hnone] at hconditions
      cases hconditions
      rfl
    · rw [Option.mem_def.1 hk, Option.mapM_some] at hconditions
      obtain ⟨made, w, hmade, hconditions⟩ := exec_bind_eq_ok hconditions
      cases hconditions
      exact ⟨made, _, rfl, hmade⟩
  · cases h

theorem join_eq_ok {j : DraftJoin} {join : Join} (hst : R s t)
    (h : (Resolve.join depth j).exec env t = (.ok join, u)) : j.Comes env depth R s join := by
  obtain ⟨hkind, htable, hnone, hsome⟩ := exec_join_eq_ok h
  refine ⟨hkind, htable, hnone, fun k hk own d hown => ?_⟩
  obtain ⟨conditions, v, hconditions, hmade⟩ := hsome k hk
  refine ⟨conditions, hconditions, ?_⟩
  rw [exec_bind_ok (exec_draftOf (hown t hst).builder)] at hmade
  refine criteria_eq_ok hR (fun t ht => ?_) hst hmade
  rw [(hown t ht).draft, Option.getD_some]

/-- As long as the scripts of groups leave the draft alone, the clauses are those that it declares. -/
theorem selectClauses_comes {draft : Nat} {clauses : Clauses} (hd : ∀ t, R s t → t.drafts[draft]? = some d)
    (h : (selectClauses depth draft).exec env s = (.ok clauses, u)) : d.Comes env depth R s clauses := by
  obtain ⟨js, ws, hs, qualifier, t₁, t₂, hjs, hws, hhs, rfl⟩ := exec_selectClauses_eq_ok h
  have hread : ∀ t, R s t → t.drafts[draft]?.getD {} = d := fun t ht => by rw [hd t ht, Option.getD_some]
  have h₁ : R s t₁ := (hR.joins depth draft).of_exec hjs
  have h₂ : R s t₂ := trans_of R h₁ ((hR.bound depth qualifier _ draft).of_exec hws)
  have h₃ : R s u := trans_of R h₂ ((hR.bound depth qualifier _ draft).of_exec hhs)
  refine ⟨?_, ?_, ?_, ?_⟩
  · have hlist : ∀ t, R s t → (t.drafts[draft]?.getD {}).joins.getD [] = d.joins.getD [] :=
      fun t ht => by rw [hread t ht]
    refine (each_eq_ok (fun _ j => hR.join depth j) hlist (refl_of R s) hjs).imp fun j join hj => ?_
    obtain ⟨_, v, w, hsv, hj⟩ := hj
    exact join_eq_ok hR hsv hj
  · exact criteria_eq_ok hR (fun t ht => by rw [hread t ht]) h₁ hws
  · exact criteria_eq_ok hR (fun t ht => by rw [hread t ht]) h₂ hhs
  · rw [hread s (refl_of R s), hread t₂ h₂, hread u h₃]
    rfl

end Relation

end Resolve

/-! ### Scripts that are not restricted -/

section Within

variable {R R' : Session → Session → Prop}

theorem Criterion.Comes.of_within {c : Criterion} {condition : Condition}
    (h : c.Comes (env.within R') depth R s condition) : c.Comes env depth R s condition := by
  cases h with
  | test hcolumns hgroup => exact .test hcolumns hgroup
  | group hcolumns hkey hnull hst hmembers =>
      exact .group hcolumns hkey hnull hst (Widens.making.members depth _ _ _ _ hmembers)
  | columns hcolumns => exact .columns hcolumns

theorem DraftJoin.Comes.of_within {j : DraftJoin} {join : Join} (h : j.Comes (env.within R') depth R s join) :
    j.Comes env depth R s join where
  kind := h.kind
  table := h.table
  unconditional := h.unconditional
  conditions k hk own d hown := by
    obtain ⟨conditions, hconditions, hcomes⟩ := h.conditions k hk own d hown
    exact ⟨conditions, hconditions, hcomes.imp fun _ _ => Criterion.Comes.of_within⟩

theorem Draft.Comes.of_within {c : Clauses} (h : d.Comes (env.within R') depth R s c) : d.Comes env depth R s c where
  joins := h.joins.imp fun _ _ => DraftJoin.Comes.of_within
  wheres := h.wheres.imp fun _ _ => Criterion.Comes.of_within
  havings := h.havings.imp fun _ _ => Criterion.Comes.of_within
  others := h.others

end Within

/-- A builder compiles to what it declares as long as the scripts of groups leave builders alone that have been there
before. -/
theorem Session.Has.comes {q : Query} {clauses : Clauses} (hs : s.Has id b d)
    (hscripts : Confined (UntouchedBelow s.builders.size) env (compile id .select) s)
    (h : (compile id .select).exec env s = (.ok q, t))
    (hclauses : (Resolve.selectClauses (env.depth - 1) b.draft).exec env s = (.ok clauses, u)) :
    d.Comes env (env.depth - 1) (UntouchedBelow s.builders.size) s clauses := by
  rw [← hscripts] at h
  obtain ⟨clauses', own, members, v, hclauses', -, -⟩ := compile_select_eq_ok hs.builder h
  have hwidened := Widens.making.selectClauses _ _ s clauses' v hclauses'
  change (Resolve.selectClauses (env.depth - 1) b.draft).exec env s = _ at hwidened
  rw [hclauses] at hwidened
  cases hwidened
  exact (Resolve.selectClauses_comes Keeps.untouchedBelow (fun t ht => (ht id hs.lt b d hs).draft) hclauses').of_within

end SqlBuilder
