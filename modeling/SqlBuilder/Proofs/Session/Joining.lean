import SqlBuilder.Proofs.Session.Listing
import SqlBuilder.Proofs.Session.Overwriting
import SqlBuilder.Proofs.Session.Selecting
import SqlBuilder.Proofs.Statement.Verbatim

/-!
The conditions of joins. They are those that `on` declares on the builder of the join, in order and with their joiners.
Conditions on rows that are declared there are not among them. A fragment of SQL without an operator does not stand
alone among them.
-/

namespace SqlBuilder

open Act Session

variable {env : Surroundings} {s t u : Session} {id k i : Nat} {b own : Builder} {d d' : Draft} {q : Query}

/-! ### The calls on the builder of a join -/

/-- The condition of the join that a call on its builder declares. -/
def BuilderCall.onCriterion? (lead : Option String) : BuilderCall → Option Criterion
  | .on key operator operand joiner => some {
      key := NameScope.columns.addPrefix lead key
      operator
      operand := NameScope.columns.addPrefix lead operand
      joiner
      opensOn := true }
  | _ => none

/-- A call that declares a condition, of the join or on rows. -/
def BuilderCall.isConditional : BuilderCall → Bool
  | .on _ _ _ _ => true
  | .condition _ _ _ _ => true
  | _ => false

/-- The calls for conditions on a builder since a state, the latest one last. A call may fail, and in between anything
may happen that leaves the builder alone. -/
inductive Session.Joining (env : Surroundings) (k : Nat) (s : Session) : Session → List BuilderCall → Prop where
  | start : Joining env k s s []
  | between {t u : Session} {calls : List BuilderCall} (h : Joining env k s t calls) (hbetween : Untouched k t u) :
      Joining env k s u calls
  | called {t u : Session} {calls : List BuilderCall} {c : BuilderCall} {outcome : Except Fault Value}
      (h : Joining env k s t calls) (hconditional : c.isConditional = true)
      (hscripts : Confined (Untouched k) env (c.perform k) t) (hcall : (c.perform k).exec env t = (outcome, u)) :
      Joining env k s u (calls ++ [c])

variable {calls : List BuilderCall}

theorem Session.Has.exec_on_self (h : s.Has k own d) (key operator operand joiner : Value) :
    ∃ t, (∀ env, (Declare.on k key operator operand joiner).exec env s = (.ok (), t)) ∧ t.Has k own { d with
      criteria := extended d.criteria [⟨NameScope.columns.addPrefix own.lead key, operator,
        NameScope.columns.addPrefix own.lead operand, joiner, true, none⟩] } := by
  refine ⟨_, fun env => ?_, h.modify fun d => { d with
    criteria := extended d.criteria [⟨NameScope.columns.addPrefix own.lead key, operator,
      NameScope.columns.addPrefix own.lead operand, joiner, true, none⟩] }⟩
  unfold Declare.on
  rw [exec_bind_ok (h.exec_withLead _ _), exec_bind_ok (h.exec_withLead _ _)]
  exact exec_modifyDraft h.builder _

/-- A condition of the join runs no script. -/
theorem Session.Has.called_on {calls : List BuilderCall} (h : t.Has k own d) (hrun : Joining env k s t calls)
    (key operator operand joiner : Value) : ∃ u, (Declare.on k key operator operand joiner).exec env t = (.ok (), u) ∧
      ((BuilderCall.on key operator operand joiner).perform k).exec env t = (.ok (.builder own.role.kind k), u) ∧
      Joining env k s u (calls ++ [.on key operator operand joiner]) ∧ u.Has k own { d with
        criteria := extended d.criteria [⟨NameScope.columns.addPrefix own.lead key, operator,
          NameScope.columns.addPrefix own.lead operand, joiner, true, none⟩] } := by
  obtain ⟨u, hon, hu⟩ := h.exec_on_self key operator operand joiner
  have hcall : ∀ env, ((BuilderCall.on key operator operand joiner).perform k).exec env t =
      (.ok (.builder own.role.kind k), u) := fun env => (exec_bind_ok (hon env)).trans hu.exec_builderValue
  exact ⟨u, hon env, hcall env, hrun.called rfl ((hcall _).trans (hcall env).symm) (hcall env), hu⟩

/-- A condition on rows is none of the join, whether it can be declared or not. -/
theorem Session.Has.criteria_condition [env.Keeps (Untouched k)] (h : s.Has k own d) (hrole : own.role ≠ .group)
    {joiner : String} {key operator operand : Value} {outcome : Except Fault Value}
    (hexec : ((BuilderCall.condition joiner key operator operand).perform k).exec env s = (outcome, t)) :
    ∃ d', t.Has k own d' ∧ d'.criteria = d.criteria := by
  cases hoverwriting : own.overwriting.isTruthy with
  | true =>
      obtain ⟨-, ht⟩ | ⟨-, xs, -, ht⟩ := condition_cases h hrole hoverwriting hexec
      · exact ⟨d, ht, rfl⟩
      · exact ⟨_, ht, rfl⟩
  | false =>
      have hdrop : (Declare.EntryList.wheres.dropReplaced k (NameScope.columns.addPrefix own.lead key)).exec env s =
          (.ok (), s) := by
        unfold Declare.EntryList.dropReplaced
        rw [exec_bind_ok h.exec_builder, if_neg (Bool.eq_false_iff.1 hoverwriting)]
        rfl
      obtain ⟨u, hpush, hu⟩ := Declare.EntryList.wheres.exec_push env h
        (.declared own.lead joiner key operator operand)
      change (BuilderCall.declaring k (Declare.condition k joiner key operator operand)).exec env s = _ at hexec
      unfold BuilderCall.declaring at hexec
      rw [exec_bind_ok ((h.exec_condition hrole _ _ _ _).trans ((exec_bind_ok hdrop).trans hpush)),
        hu.exec_builderValue] at hexec
      cases hexec
      exact ⟨_, hu, rfl⟩

/-- What one call adds to the conditions of the join. -/
theorem Session.Has.criteria_call [env.Keeps (Untouched k)] (h : s.Has k own d) (hrole : own.role ≠ .group)
    {c : BuilderCall} (hconditional : c.isConditional = true) {outcome : Except Fault Value}
    (hexec : (c.perform k).exec env s = (outcome, t)) :
    ∃ d', t.Has k own d' ∧ d'.criteria.getD [] = d.criteria.getD [] ++ (c.onCriterion? own.lead).toList := by
  cases c with
  | on key operator operand joiner =>
      obtain ⟨u, hon, hu⟩ := h.exec_on_self key operator operand joiner
      cases ((exec_bind_ok (hon env)).trans hu.exec_builderValue).symm.trans hexec
      exact ⟨_, hu, rfl⟩
  | condition joiner key operator operand =>
      obtain ⟨d', ht, hcriteria⟩ := h.criteria_condition hrole hexec
      exact ⟨d', ht, by rw [hcriteria]; exact (List.append_nil _).symm⟩
  | _ => cases hconditional

/-- The conditions of the join are those of all the calls for them, in order. -/
theorem Session.Joining.criteria (h : Joining env k s t calls) (hs : s.Has k own d) (hrole : own.role ≠ .group)
    (hempty : d.criteria.getD [] = []) :
    ∃ d', t.Has k own d' ∧ d'.criteria.getD [] = calls.filterMap (·.onCriterion? own.lead) := by
  induction h with
  | start => exact ⟨d, hs, hempty⟩
  | between _ hbetween ih =>
      obtain ⟨d', hd', hcriteria⟩ := ih
      exact ⟨d', hbetween _ _ hd', hcriteria⟩
  | called _ hconditional hscripts hcall ih =>
      obtain ⟨d', hd', hcriteria⟩ := ih
      rw [← hscripts] at hcall
      obtain ⟨d'', hd'', hadded⟩ := hd'.criteria_call hrole hconditional hcall
      refine ⟨d'', hd'', ?_⟩
      rw [hadded, hcriteria, List.filterMap_append]
      rfl

/-- A join on a comparison of columns, or on a fragment of SQL alone, has a builder that has been called once. -/
theorem Session.Has.joining_of_join (h : s.Has id b d) (hoverwriting : b.overwriting.isTruthy = false)
    {table key operator operand kind v : Value} (hnull : key.isNull = false) (hcallable : key.isCallable = false)
    (hcall : ((BuilderCall.join table key operator operand kind).perform id).exec env s = (.ok v, u)) :
    ∃ own t, t.Has s.builders.size own {} ∧ own.role = .join ∧
      Joining env s.builders.size t u [.on key operator operand (.text "AND")] ∧
      u.Has id b { d with
        joins := extended d.joins [⟨kind, NameScope.tables.addPrefix b.lead table, some s.builders.size⟩] } := by
  let own : Builder := ⟨.join, s.drafts.size, s.lead, .bool s.overwriting, .null, none⟩
  let t : Session := { s with drafts := s.drafts.push {}, builders := s.builders.push own }
  have hnew : (Act.newBuilder .join).exec env s = (.ok s.builders.size, t) := rfl
  have hown : t.Has s.builders.size own {} := ⟨Array.getElem?_push_size, Array.getElem?_push_size⟩
  have ht : t.Has id b d := ⟨getElem?_push_of_some h.builder, getElem?_push_of_some h.draft⟩
  have hdraft : b.draft ≠ own.draft := (Array.getElem?_eq_some_iff.1 h.draft).1.ne
  have hstart : Joining env s.builders.size t t [] := .start
  obtain ⟨w, hon, -, hcalled, hownw⟩ := hown.called_on hstart key operator operand (.text "AND")
  have hw : w.Has id b d := by
    obtain ⟨w', hon', hw'⟩ := ht.exec_on env hown hdraft key operator operand (.text "AND")
    cases hon.symm.trans hon'
    exact hw'
  let j : DraftJoin := ⟨kind, NameScope.tables.addPrefix b.lead table, some s.builders.size⟩
  let x : Session := { w with drafts := w.drafts.modify b.draft fun d => { d with joins := extended d.joins [j] } }
  have hpush : (Declare.pushJoin id kind table (some s.builders.size)).exec env w = (.ok (), x) := by
    have hdrop : (Declare.EntryList.joins.dropReplaced id j.table).exec env w = (.ok (), w) := by
      unfold Declare.EntryList.dropReplaced
      rw [exec_bind_ok hw.exec_builder, if_neg (Bool.eq_false_iff.1 hoverwriting)]
      rfl
    unfold Declare.pushJoin
    rw [exec_bind_ok (hw.exec_withLead _ _), exec_bind_ok hdrop]
    exact exec_modifyDraft hw.builder _
  have hx : x.Has id b { d with joins := extended d.joins [j] } := hw.modify _
  have hjoin : (Declare.join id table key operator operand kind).exec env s = (.ok (), x) := by
    unfold Declare.join
    rw [if_neg (Bool.eq_false_iff.1 hnull), exec_bind_ok hnew]
    simp only [hcallable, Bool.false_eq_true, if_false]
    rw [exec_bind_ok hon, hpush]
  have hu : u = x := congrArg Prod.snd (hcall.symm.trans ((exec_bind_ok hjoin).trans hx.exec_builderValue))
  rw [hu]
  refine ⟨own, t, hown, rfl, hcalled.between fun own' d' hown' => ?_, hx⟩
  obtain rfl : own = own' := by
    have hsame : some own = some own' := hownw.builder.symm.trans hown'.builder
    exact Option.some.inj hsame
  exact SparedBut.modify b.draft w _ _ _ _ (Ne.symm hdraft) hown'

/-! ### The compiled conditions -/

/-- The joiner of the condition is the one that was declared. -/
def Criterion.Leads (c : Criterion) (x : Condition) : Prop := ∃ isFirst, Resolve.joint isFirst c = .ok x.joint

theorem Criterion.Leads.joint_eq {c : Criterion} {x : Condition} {joiner : String} (h : c.Leads x)
    (hjoiner : c.joiner = .text joiner) : x.joint = ⟨joiner, c.opensOn⟩ := by
  obtain ⟨isFirst, h⟩ := h
  unfold Resolve.joint at h
  rw [hjoiner] at h
  exact (Except.ok.inj h).symm

theorem Resolve.leads_of_criterion {depth : Nat} {isFirst : Bool} {c : Criterion} {x : Condition}
    (h : (criterion (members depth) isFirst c).exec env s = (.ok x, t)) : c.Leads x := by
  unfold criterion at h
  obtain ⟨joint, v, hjoint, h⟩ := exec_bind_eq_ok h
  rw [exec_lift] at hjoint
  have hleads : Resolve.joint isFirst c = .ok joint := congrArg Prod.fst hjoint
  refine ⟨isFirst, hleads.trans (congrArg Except.ok ?_)⟩
  split at h
  · cases h
    rfl
  · split at h
    · split at h
      · obtain ⟨members, w, -, h⟩ := exec_bind_eq_ok h
        cases h
        rfl
      · cases h
      · cases h
    · cases h
      rfl

section Compiled

/-- Entries that correspond have the same place. -/
theorem exists_getElem?_of_forall₂ {α β : Type} {R : α → β → Prop} {xs : List α} {ys : List β} {x : α}
    (h : List.Forall₂ R xs ys) (hx : xs[i]? = some x) : ∃ y, ys[i]? = some y ∧ R x y := by
  obtain ⟨hi, rfl⟩ := List.getElem?_eq_some_iff.1 hx
  have hi' : i < ys.length := h.length_eq ▸ hi
  exact ⟨ys[i], List.getElem?_eq_getElem hi', h.get hi hi'⟩

/-- A join in writing has its conditions at its end. -/
theorem Join.exists_render {dialect : Dialect} {join : Join} {conditions : List Condition}
    (h : join.render dialect = .ok q) (hconditions : join.conditions = some conditions) : ∃ table on,
      Condition.expression dialect none false conditions = .ok on ∧
      q = .clauses [.plain (Text.upper join.kind), .plain "JOIN", table, on] := by
  unfold Join.render at h
  obtain ⟨table, -, h⟩ := exists_ok_of_bind h
  obtain ⟨on, hon, h⟩ := exists_ok_of_bind h
  obtain ⟨-, -, h⟩ := exists_ok_of_bind h
  rw [hconditions] at hon
  exact ⟨table, on, hon, (Except.ok.inj h).symm⟩

/-- The conditions of a compiled join are those that its builder declares. -/
theorem conditions_of_join {depth n : Nat} {clauses : Clauses} {j : DraftJoin} {R : Session → Session → Prop}
    [IsPreorder Session R] (hR : Making (Keeps R env)) (hd : ∀ u, R t u → u.drafts[n]? = some d)
    (hown : ∀ u, R t u → u.Has k own d') (hj : (d.joins.getD [])[i]? = some j) (hk : j.builder = some k)
    (h : (Resolve.selectClauses depth n).exec env t = (.ok clauses, u)) : ∃ join conditions,
      clauses.joins[i]? = some join ∧ join.conditions = some conditions ∧ j.kind = .text join.kind ∧
      List.Forall₂ (fun c x => c.Comes env depth R t x ∧ c.Leads x) (d'.criteria.getD []) conditions := by
  obtain ⟨js, ws, hs, qualifier, t₁, t₂, hjs, -, -, rfl⟩ := Resolve.exec_selectClauses_eq_ok h
  have hlist : ∀ u, R t u → (u.drafts[n]?.getD {}).joins.getD [] = d.joins.getD [] :=
    fun u hu => by rw [hd u hu, Option.getD_some]
  have hmade := Resolve.each_eq_ok (fun _ j => hR.join depth j) hlist (refl_of R t) hjs
  obtain ⟨join, hjoin, place, v, w, htv, hexec⟩ := exists_getElem?_of_forall₂ hmade hj
  obtain ⟨hkind, -, -, hsome⟩ := Resolve.exec_join_eq_ok hexec
  obtain ⟨conditions, v', hconditions, hcriteria⟩ := hsome k hk
  rw [exec_bind_ok (exec_draftOf (hown v htv).builder)] at hcriteria
  refine ⟨join, conditions, hjoin, hconditions, hkind, ?_⟩
  refine Resolve.criteria_forall₂ hR (fun isFirst c x v w hv hx => ⟨Resolve.criterion_eq_ok hv hx,
    Resolve.leads_of_criterion hx⟩) (fun u hu => ?_) htv hcriteria
  rw [(hown u hu).draft, Option.getD_some]

end Compiled

/-- The conditions of a join are those of the calls of `on` on its builder, in order and with their joiners, and no
others: there is one for every call exactly if no condition on rows is among them. They stand in the compiled projection
as declared, with fragments of SQL alone, exactly if every fragment among them has an operator. A fragment that is all
there is to a condition stands alone where values are bound, and has an operator and a value behind it there. -/
theorem compile_select_joined (hs : s.Has k own {}) (hrole : own.role ≠ .group) (hrun : Joining env k s t calls)
    (ht : t.Has id b d) {j : DraftJoin} (hj : (d.joins.getD [])[i]? = some j) (hk : j.builder = some k)
    (hscripts : Confined (UntouchedBelow t.builders.size) env (compile id .select) t)
    (h : (compile id .select).exec env t = (.ok q, u)) :
    ∃ conditions kind table on alone front texts back members,
      List.Forall₂ (fun c x => c.Comes env (env.depth - 1) (UntouchedBelow t.builders.size) t x ∧ c.Leads x)
        (calls.filterMap (·.onCriterion? own.lead)) conditions ∧
      (conditions.length = calls.length ↔ ∀ c ∈ calls, (c.onCriterion? own.lead).isSome = true) ∧
      q = Query.united (.clauses (front ++ .clauses texts :: back)) members ∧ j.kind = .text kind ∧
      texts[i]? = some (.clauses [.plain (Text.upper kind), .plain "JOIN", table, on]) ∧
      Condition.expression (.ofEngine t.driver.engine) none false conditions = .ok on ∧
      Condition.verbatim (.ofEngine t.driver.engine) conditions = .ok alone ∧
      (on = alone ↔ ∀ x ∈ conditions, x.isVerbatim = false) ∧
      ∀ joint key, .test joint key .null .null ∈ conditions → key.isRaw = true → ∃ fragment,
        fragmentOf key = .ok fragment ∧
        comparison (.ofEngine t.driver.engine) none true key .null .null = .ok fragment ∧
        comparison (.ofEngine t.driver.engine) none false key .null .null = .ok (fragment ++ .plain " None NULL") := by
  obtain ⟨d', hk', hcriteria⟩ := hrun.criteria hs hrole rfl
  have hlt : k < t.builders.size := (Array.getElem?_eq_some_iff.1 hk'.builder).1
  have hid : id < t.builders.size := (Array.getElem?_eq_some_iff.1 ht.builder).1
  rw [← hscripts] at h
  obtain ⟨clauses, own', members, v, hclauses, hown, rfl⟩ := compile_select_eq_ok ht.builder h
  obtain ⟨join, conditions, hjoin, hconditions, hkind, hcomes⟩ := conditions_of_join Keeps.untouchedBelow
    (fun u hu => (hu id hid b d ht).draft) (fun u hu => hu k hlt own d' hk') hj hk hclauses
  obtain ⟨qualifier, front, p, back, hwrite, rfl⟩ := Clauses.select_eq_ok hown
  obtain ⟨texts, htexts, hclause⟩ := exists_ok_of_bind hwrite.joins
  have hjoins : p.joins = .clauses texts := (Except.ok.inj hclause).symm
  obtain ⟨text, htext, hrender⟩ := exists_getElem?_of_forall₂ (forall₂_of_mapM htexts) hjoin
  obtain ⟨table, on, hon, rfl⟩ := Join.exists_render hrender hconditions
  obtain ⟨alone, halone, hiff⟩ := Condition.verbatim_of_expression hon
  rw [hcriteria] at hcomes
  refine ⟨conditions, join.kind, table, on, alone,
    front ++ [p.fields, .plain (if clauses.tables.isEmpty then "" else "FROM"), p.tables], texts,
    [p.wheres, p.groups, p.havings, p.orders] ++ back, members, hcomes.imp fun c x hx => ⟨hx.1.of_within, hx.2⟩,
    ?_, ?_, hkind, htext, hon, halone, hiff, ?_⟩
  · rw [← hcomes.length_eq]
    exact List.filterMap_length_eq_length
  · simp [Clauses.Pieces.list, hjoins]
  · exact fun joint key hmem hraw => Condition.exists_fragment_of_expression hon hmem hraw

/-- A comparison is compiled to one with its joiner. -/
theorem Criterion.Comes.eq_test {depth : Nat} {R : Session → Session → Prop} {c : Criterion} {x : Condition}
    (h : c.Comes env depth R s x) (hleads : c.Leads x) (hcolumns : c.columns = none)
    (hkey : c.key.isCallable = false) {joiner : String} (hjoiner : c.joiner = .text joiner) :
    x = .test ⟨joiner, c.opensOn⟩ c.key c.operator c.operand := by
  have hjoint := hleads.joint_eq hjoiner
  cases h with
  | test => exact congrArg (Condition.test · c.key c.operator c.operand) hjoint
  | group _ hgroup =>
      rw [hgroup] at hkey
      cases hkey
  | columns hnames => cases hcolumns.symm.trans hnames

def BuilderCall.joinPets (key operator operand : Value) : BuilderCall :=
  .join (.text "pets") key operator operand (.text "")

/-- The session behind a join of the people with their pets, and behind another condition of it. -/
def Session.kept : Session :=
  (((BuilderCall.on (.text "a") (.text "=") (.text "b") (.text "OR")).perform 4).exec (.scriptless 2)
    (((BuilderCall.joinPets (.text "id") (.text "=") (.text "owner")).perform 0).exec (.scriptless 2) (tables #[])).2).2

/-- Two comparisons of columns stand in the join as declared. -/
theorem compile_select_joined_pets : ∃ q u conditions on,
    (compile 0 .select).exec (.scriptless 2) Session.kept = (.ok q, u) ∧ conditions.length = 2 ∧
    Condition.expression (.ofEngine .mysql) none false conditions = .ok on ∧
    Condition.verbatim (.ofEngine .mysql) conditions = .ok on ∧ on.sql = "ON `id` = `owner` OR `a` = `b`" := by
  obtain ⟨q, u, hq⟩ : ∃ q u, (compile 0 .select).exec (.scriptless 2) Session.kept = (.ok q, u) := ⟨_, _, rfl⟩
  have hpeople : (tables #[]).Has 0 ⟨.query, 0, none, .bool false, .null, none⟩ (.over (.text "people")) := ⟨rfl, rfl⟩
  have hjoin : ((BuilderCall.joinPets (.text "id") (.text "=") (.text "owner")).perform 0).exec (.scriptless 2)
      (tables #[]) = (.ok (.builder .query 0), _) := rfl
  obtain ⟨own, s, hs, hrole, hfirst, -⟩ := hpeople.joining_of_join rfl (by rfl) (by rfl) hjoin
  have hown : Session.kept.Has 0 _ _ := ⟨rfl, rfl⟩
  have hrun : Joining (.scriptless 2) 4 s Session.kept _ := hfirst.called
    (c := .on (.text "a") (.text "=") (.text "b") (.text "OR")) rfl (.of_keeps _ _) rfl
  obtain ⟨conditions, kind, table, on, alone, front, texts, back, members, hconditions, hlength, -, -, -, hon, halone,
    hiff, -⟩ := compile_select_joined hs (hrole ▸ nofun) hrun hown (i := 0) rfl rfl (.of_keeps _ _) hq
  obtain ⟨d, hkept, -⟩ := hrun.criteria hs (hrole ▸ nofun) rfl
  obtain rfl : (⟨.join, 4, none, .bool false, .null, none⟩ : Builder) = own := Option.some.inj hkept.builder
  obtain _ | ⟨⟨hx, hleads⟩, _ | ⟨⟨hy, hleads'⟩, _ | _⟩⟩ := hconditions
  obtain rfl : _ = Condition.test ⟨"AND", true⟩ (.text "id") (.text "=") (.text "owner") :=
    hx.eq_test hleads rfl rfl rfl
  obtain rfl : _ = Condition.test ⟨"OR", true⟩ (.text "a") (.text "=") (.text "b") := hy.eq_test hleads' rfl rfl rfl
  have hsql : (Condition.expression (.ofEngine .mysql) none false [.test ⟨"AND", true⟩ (.text "id") (.text "=")
      (.text "owner"), .test ⟨"OR", true⟩ (.text "a") (.text "=") (.text "b")]).toOption.map (·.sql) =
        some "ON `id` = `owner` OR `a` = `b`" := by decide +kernel
  have hengine : Session.kept.driver.engine = .mysql := rfl
  rw [hengine] at hon halone
  rw [hon] at hsql
  exact ⟨q, u, _, on, hq, hlength.2 (by decide), hon, hiff.2 (by decide) ▸ halone, Option.some.inj hsql⟩

/-- Conditions of the join and on rows. -/
def Script.mixing : Script where
  steps := [
    .mk "on" [.value (.text "id"), .value (.text "="), .value (.text "owner")] [] {} [] default,
    .mk "where" [.value (.text "age"), .value (.text ">"), .value (.int 3)] [] {} [] default]
  answer := .value .null

/-- A fragment of SQL alone has more text than its own in a join, though not where values are bound, and a condition on
rows is lost among those of a join. -/
theorem not_compile_select_joined :
    selection (behind (tables #[]) [(0, .joinPets (.raw (.text "a = b") []) .null .null)]) 0 =
      some "SELECT * FROM `people` JOIN `pets` ON a = b None NULL" ∧
    ((compile 4 (.conditions true)).exec (Play.surroundings 4) (behind (tables #[])
      [(0, .joinPets (.raw (.text "a = b") []) .null .null)])).1.toOption.map (·.sql) = some "ON a = b" ∧
    selection (behind (tables #[.mixing]) [(0, .joinPets (.group 0) .null .null)]) 0 =
      some "SELECT * FROM `people` JOIN `pets` ON `id` = `owner`" := by
  exact ⟨by decide +kernel, by decide +kernel, by decide +kernel⟩

end SqlBuilder
