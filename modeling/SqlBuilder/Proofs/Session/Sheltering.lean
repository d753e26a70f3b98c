import SqlBuilder.Proofs.Session.Aggregating
import SqlBuilder.Proofs.Session.Independence
import SqlBuilder.Proofs.Session.Members

/-!
Aggregates leave a builder as it was. What a builder declares is changed for as long as the statement of an aggregate
is made and executed, and comes back on every way out of it; a wrapped statement belongs to a builder of its own.
-/

namespace SqlBuilder

open Act Footprint

variable {α : Type} {env : Surroundings} {p : Footprint} {s t u : Session} {id : Nat}

namespace Footprint

/-- The parts are sustained, if all of them are there. -/
def Sheltered (p : Footprint) (s t : Session) : Prop := (∀ n ∈ p.drafts, n < s.drafts.size) → p.Sustains s t

theorem Sustains.kept (h : p.Sustains s t) (hs : ∀ n ∈ p.drafts, n < s.drafts.size) :
    ∀ n ∈ p.drafts, n < t.drafts.size := by
  intro n hn
  have hd := h.drafts n hn
  rw [Array.getElem?_eq_getElem (hs n hn)] at hd
  exact (Array.getElem?_eq_some_iff.1 hd).1

instance : IsPreorder Session p.Sheltered where
  refl s _ := .refl p s
  trans _ _ _ hst htu hs := trans_of p.Sustains (hst hs) (htu ((hst hs).kept hs))

theorem Keeping.sheltered (h : Keeping s t) : p.Sheltered s t :=
  fun hs => ⟨fun n hn => h.drafts n (hs n hn), fun k _ => h.builders k, h.engine⟩

/-- A change of a draft is taken back behind whatever sustains the parts. -/
theorem Sustains.around {n : Nat} {f g : Draft → Draft}
    (h : p.Sustains { s with drafts := s.drafts.modify n f } u) (hjoins : ∀ d, (f d).joins = d.joins)
    (hback : ∀ d, s.drafts[n]? = some d → g (f d) = d) :
    p.Sustains s { u with drafts := u.drafts.modify n g } := by
  refine ⟨fun m hm => ?_, fun k hk b hb => h.builders k ?_ b hb, h.engine⟩
  · have hd := h.drafts m hm
    rw [Array.getElem?_modify] at hd ⊢
    rw [hd]
    by_cases hnm : n = m
    · rw [if_pos hnm, if_pos hnm, ← hnm]
      cases hdraft : s.drafts[n]? with
      | none => rfl
      | some d => exact congrArg some (hback d hdraft)
    · rw [if_neg hnm, if_neg hnm]
  · obtain hk | ⟨m, hm, j, hj, hjk⟩ := hk
    · exact .inl hk
    · refine .inr ⟨m, hm, j, ?_, hjk⟩
      change j ∈ (((s.drafts.modify n f)[m]?).getD {}).joins.getD []
      rw [Array.getElem?_modify]
      by_cases hnm : n = m
      · rw [if_pos hnm]
        cases hdraft : s.drafts[m]? with
        | none =>
            rw [hdraft] at hj
            exact hj
        | some d =>
            rw [hdraft] at hj
            change j ∈ (f d).joins.getD []
            rw [hjoins]
            exact hj
      · rw [if_neg hnm]
        exact hj

end Footprint

instance [h : env.Keeps p.Sustains] : env.Keeps p.Sheltered where
  fill script target s _ := h.fill script target s
  notify name script call s _ := h.notify name script call s

instance [env.Keeps p.Sustains] : env.Executes p.Sheltered where
  statement c s hc :=
    (Keeping.of_eq rfl rfl (DriverCall.engine_after_statement hc) rfl rfl rfl : Keeping s (s.called c)).sheltered
  pending id _ _ _ result _ t _ hst :=
    trans_of _ hst (Keeping.modifyBuilder t id (f := fun b => { b with pending := some result }) fun _ => rfl).sheltered

namespace Execute

variable [env.Keeps p.Sustains]

theorem sheltered_selectRows (id : Nat) : Keeps p.Sheltered env (selectRows id) :=
  selectRows_of_keeping (fun _ _ h => h.sheltered) id

omit [env.Keeps p.Sustains] in
/-- The draft may be one of the parts, and is changed back if it is. -/
theorem sheltered_withProjection (hid : id ∈ p.builders) (expression : Value) {operation : Act α}
    (h : Keeps p.Sheltered env operation) :
    Keeps p.Sheltered env (withProjection id [.plain expression] operation) := by
  intro s hs
  cases hb : s.builders[id]? with
  | none =>
      unfold withProjection
      rw [exec_bind_error (exec_draft_of_none hb)]
      exact .refl p s
  | some b =>
      let t := s.swapping b.draft expression
      rcases hop : operation.exec env t with ⟨outcome, u⟩
      have htu : p.Sustains t u := h.of_exec hop fun n hn => (Array.size_modify ..).symm ▸ hs n hn
      obtain ⟨b', hb', hdraft⟩ := htu.builders id (.inl hid) b hb
      rw [exec_withProjection hb hop hb', hdraft]
      refine htu.around (fun _ => rfl) fun d hd => ?_
      rw [hd]
      rfl

/-- The new builder has a draft that is none of the parts. -/
theorem sheltered_wrapped (id : Nat) (content content' : Value) (bindings bindings' : List Value) :
    Keeps p.Sheltered env (wrapped id (.raw content bindings) (.raw content' bindings')) := by
  intro s
  cases hb : s.builders[id]? with
  | none =>
      have hnew : (Declare.newQuery id).exec env s = (.error .missingMember, s) :=
        exec_bind_error (exec_builder_of_none hb)
      have htable : (Declare.table id [.raw content bindings]).exec env s = (.error .missingMember, s) :=
        exec_bind_error hnew
      unfold wrapped
      rw [exec_bind_error htable]
      exact refl_of p.Sheltered s
  | some b =>
      rw [exec_wrapped hb]
      have hnew : Keeping s (s.wrapping b.role (.raw content bindings) (.raw content' bindings')) :=
        (Keeping.pushDraft s _).trans (.pushBuilder _ _)
      exact trans_of p.Sheltered hnew.sheltered (sheltered_selectRows _ _)

theorem sheltered_expressionRows (hid : id ∈ p.builders) (content : Value) :
    Keeps p.Sheltered env (expressionRows id (.raw content [])) := by
  have hmaking : Making (Keeps p.Sheltered env) := making_of_keeping fun _ _ h => h.sheltered
  refine .bind (.draft _) fun _ => ?_
  split
  · refine .bind (hmaking.builderValue _) fun member s => ?_
    refine Keeps.bind_at (hmaking.subQuery _ _) fun fragment t h => ?_
    obtain ⟨_, _, rfl⟩ := Declare.subQuery_eq_ok h
    exact trans_of p.Sheltered ((hmaking.subQuery _ _).of_exec h) (sheltered_wrapped _ _ _ _ _ t)
  · exact sheltered_withProjection hid _ (sheltered_selectRows id)

theorem sheltered_aggregate (hid : id ∈ p.builders) (function : String) (field : Value) :
    Keeps p.Sheltered env (aggregate id function field) :=
  aggregate_of_keeping (fun _ _ h => h.sheltered) id function field (sheltered_expressionRows hid)

end Execute

namespace Session

/-- The builder declares what it did, with its joins and all that it is united with, and it compiles to the same, as
long as each of its groups comes to the same whenever it runs. -/
structure Sustained (env : Surroundings) (id : Nat) (s u : Session) : Prop where
  declared : u.declared id = s.declared id
  parts : (s.footprint id).Sustains s u
  compile : ∀ P : Session → Prop, (∀ v, P v → (s.footprint id).Sustains s v) → (s.footprint id).Steady env P s →
    P s → P u → ∀ request, ((compile id request).exec env u).1 = ((compile id request).exec env s).1

theorem Linked.sustained (hs : s.Linked) (hid : id < s.builders.size) (h : (s.footprint id).Sustains s u) :
    Sustained env id s u where
  declared := by
    have hb := Array.getElem?_eq_getElem hid
    obtain ⟨b', hb', hdraft⟩ := h.builders id (.inl (s.mem_footprint id)) _ hb
    obtain ⟨b, hb'', hholds, -⟩ := (hs.closed_footprint hid).builder id (s.mem_footprint id)
    obtain rfl := Option.some.inj (hb.symm.trans hb'')
    rw [declared_eq hb, declared_eq hb', hdraft, h.drafts _ hholds.draft]
  parts := h
  compile _ hP hsteady hPs hPu request := hs.outcome_compile hid hP hsteady hPs hPu request

/-- Without groups there is nothing else that the builder could depend on. -/
theorem Sustained.compile_of_groupless (h : Sustained env id s u) (hgroups : s.Groupless id)
    (request : StatementRequest) :
    ((SqlBuilder.compile id request).exec env u).1 = ((SqlBuilder.compile id request).exec env s).1 :=
  h.compile ((s.footprint id).Sustains s) (fun _ hv => hv) hgroups.steady (.refl _ _) h.parts request

/-- Behind an aggregate, whatever comes of it, the builder is as it was, if the scripts that run on the way leave it
alone. -/
theorem summary_sustained (hs : s.Linked) (hid : id < s.builders.size) {c : BuilderCall} {function : String}
    {field : Value} (hc : c.summary? = some (function, field))
    (hscripts : Confined (s.footprint id).Sustains env (c.perform id) s) :
    Sustained env id s ((c.perform id).exec env s).2 := by
  refine hs.sustained hid ?_
  have hkeeps : Keeps (s.footprint id).Sheltered (env.within (s.footprint id).Sustains) (c.perform id) := by
    rw [BuilderCall.perform_summary hc]
    exact .bind (Execute.sheltered_aggregate (s.mem_footprint id) _ _) fun _ => .lift _
  rw [← hscripts]
  exact hkeeps s (hs.closed_footprint hid).kept

/-- A builder with a projection and an order, whose connection fails. -/
def ordered : Session where
  lead := none
  overwriting := false
  driver := .scripted ⟨.mysql, [⟨some ⟨.null, .null, .text "gone"⟩, none, .int 1, none⟩], none, none, none, 0, .null,
    false⟩
  builders := #[⟨.query, 0, none, .bool false, .null, none⟩]
  drafts := #[
    { Draft.over (.text "people") with
      selects := some [.plain (.text "name")]
      orderBys := some [⟨.text "name", "ASC"⟩] }]

theorem linked_ordered : ordered.Linked where
  draft id b hb := by
    rcases id with _ | id
    · cases hb
      decide
    · cases hb
  join n d hd j hj := by
    rcases n with _ | n
    · cases hd
      cases hj
    · cases hd
  union n d hd u hu := by
    rcases n with _ | n
    · cases hd
      cases hu
    · cases hd

/-- The failure of the connection comes while the projection and the order are away. -/
theorem summary_sustained_ordered : ∃ fault u,
    ((BuilderCall.count (.text "name")).perform 0).exec (.scriptless 2) ordered = (.error fault, u) ∧
    Sustained (.scriptless 2) 0 ordered u := by
  have hsustained : Sustained (.scriptless 2) 0 ordered _ :=
    summary_sustained linked_ordered (by decide) (c := .count (.text "name")) rfl (.of_keeps _ _)
  have hfails : (((BuilderCall.count (.text "name")).perform 0).exec (.scriptless 2) ordered).1.isOk = false := by
    decide +kernel
  rcases hexec : ((BuilderCall.count (.text "name")).perform 0).exec (.scriptless 2) ordered with ⟨outcome, u⟩
  rw [hexec] at hsustained hfails
  cases outcome with
  | ok v => cases hfails
  | error fault => exact ⟨fault, u, rfl, hsustained⟩

/-- A group that limits a certain builder. -/
def limiting : Script where
  steps := [.mk "limit" [.value (.int 5)] [] { target := "people" } [] default]
  answer := .value .null

/-- The first builder has a condition that is a group. -/
def grouped (script : Script) : Session := behind (tables #[script]) [(0, .condition "AND" (.group 0) .null .null)]

def counted (script : Script) : Session := behind (grouped script) [(0, .count (.text "*"))]

/-- A group that declares something on the builder itself, and one that declares something else in its second run. -/
theorem not_sustained :
    ((grouped limiting).declared 0).limit = none ∧ ((counted limiting).declared 0).limit.bind Value.asInt? = some 5 ∧
    selection (grouped wavering) 0 = some "SELECT * FROM `people` WHERE (`name` = ?)" ∧
    selection (counted wavering) 0 = some "SELECT * FROM `people` WHERE (`age` = ?)" := by
  refine ⟨rfl, ?_, ?_, ?_⟩
  all_goals decide +kernel

end Session

end SqlBuilder
