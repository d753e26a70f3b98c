import SqlBuilder.Proofs.Session.Noting
import SqlBuilder.Proofs.Session.Selecting
import SqlBuilder.Proofs.Session.Summarizing
import SqlBuilder.Proofs.Session.Tables

/-!
Aggregates and the hooks in front of selections. A builder that does not shape its rows is selected from itself, so the
hooks of its tables run on it and their conditions are among those of the aggregate. A builder that shapes its rows is
compiled before any hook has run, and its statement is put into a new builder, for which only the hook for any table
can run.
-/

namespace SqlBuilder

open Act Session Execute

variable {α : Type} {P Q : Session → Prop} {env : Surroundings} {s t u : Session} {id : Nat} {b : Builder}
  {i : Issued} {call : HookCall} {tables : List Value}

/-! ### Hooks that have run -/

/-- The hooks of the tables have been called one after the other, and all of them have returned. Which hook a table has
is found out when it is its turn. -/
inductive Fired (env : Surroundings) (call : HookCall) : List Value → Session → Session → Prop
  | nil {s : Session} : Fired env call [] s s
  | missed {table : Value} {tables : List Value} {s t : Session} (hnone : s.hooks.running? call.event table = none)
      (h : Fired env call tables s t) : Fired env call (table :: tables) s t
  | ran {table hook v : Value} {tables : List Value} {s u t : Session}
      (hhook : s.hooks.running? call.event table = some hook) (hrun : (runHook hook call).exec env s = (.ok v, u))
      (h : Fired env call tables u t) : Fired env call (table :: tables) s t

namespace Fired

/-- Without hooks for the tables nothing happens. -/
theorem eq_of_none (h : Fired env call tables s t)
    (hnone : ∀ table ∈ tables, s.hooks.running? call.event table = none) : t = s := by
  induction h with
  | nil => rfl
  | missed _ _ ih => exact ih fun table htable => hnone table (List.mem_cons_of_mem _ htable)
  | ran hhook _ _ _ =>
      rw [hnone _ List.mem_cons_self] at hhook
      cases hhook

/-- Fragments of SQL at the end have no hooks. -/
theorem of_append_raws (tables : List Value) {raws : List Value} (hraws : ∀ v ∈ raws, v.isRaw = true)
    (h : Fired env call (tables ++ raws) s t) : Fired env call tables s t := by
  induction tables generalizing s with
  | nil =>
      have hnone : ∀ v ∈ raws, s.hooks.running? call.event v = none := fun v hv => by
        unfold HookTable.running? HookTable.find?
        rw [if_pos (hraws v hv)]
        rfl
      rw [h.eq_of_none hnone]
      exact .nil
  | cons table tables ih =>
      cases h with
      | missed hnone h => exact .missed hnone (ih h)
      | ran hhook hrun h => exact .ran hhook hrun (ih h)

end Fired

namespace Execute

theorem exec_hookFor_eq_ok {event : EventKind} {table : Value} {hook? : Option Value}
    (h : (hookFor event table).exec env s = (.ok hook?, t)) : hook? = s.hooks.running? event table ∧ t = s := by
  unfold hookFor at h
  unfold HookTable.running?
  cases hraw : table.isRaw with
  | true =>
      rw [hraw] at h
      cases h
      unfold HookTable.find?
      rw [if_pos hraw]
      exact ⟨rfl, rfl⟩
  | false =>
      rw [hraw] at h
      obtain ⟨_, u, hslot, h⟩ := exec_bind_eq_ok h
      rw [exec_lift] at hslot
      cases congrArg Prod.snd hslot
      cases h
      exact ⟨rfl, rfl⟩

section Firing

variable {event : EventKind} {statement : Option Issued} {arguments : Value} {entries : List (Value × Value)}
  {answers : List Value}

theorem fired_of_fireOn (harguments : argumentsOf arguments = .ok entries)
    (h : (tables.mapM (fireOn id event statement arguments)).exec env s = (.ok answers, t)) :
    Fired env ⟨event, statement, id, entries⟩ tables s t := by
  induction tables generalizing s answers with
  | nil =>
      cases h
      exact .nil
  | cons table tables ih =>
      rw [List.mapM_cons] at h
      obtain ⟨v, u, hfire, h⟩ := exec_bind_eq_ok h
      obtain ⟨rest, w, hrest, h⟩ := exec_bind_eq_ok h
      cases h
      unfold fireOn at hfire
      obtain ⟨hook?, _, hhook, hfire⟩ := exec_bind_eq_ok hfire
      obtain ⟨rfl, rfl⟩ := exec_hookFor_eq_ok hhook
      split at hfire
      · rename_i hnone
        cases hfire
        exact .missed hnone (ih hrest)
      · rename_i hook hsome
        obtain ⟨_, _, hlift, hfire⟩ := exec_bind_eq_ok (exec_check_bind_eq_ok hfire)
        rw [exec_lift, harguments] at hlift
        cases hlift
        exact .ran hsome hfire (ih hrest)

/-- What has been fired without a failure are the hooks for any table and for those of the builder. -/
theorem fired_of_fire (harguments : argumentsOf arguments = .ok entries)
    (h : (fire id event statement arguments).exec env s = (.ok answers, t)) :
    Fired env ⟨event, statement, id, entries⟩ (anyTable :: s.tablesOf id) s t := by
  rw [fire_eq] at h
  obtain ⟨d, u, hdraft, h⟩ := exec_bind_eq_ok h
  obtain ⟨made, v, hmade, h⟩ := exec_bind_eq_ok h
  cases h
  obtain ⟨rfl, rfl⟩ := exec_draft_eq_ok hdraft
  rw [tablesOf_eq_declared]
  exact fired_of_fireOn harguments hmade

end Firing

end Execute

/-! ### Selections behind their hooks -/

def Issued.Carries (i : Issued) (q : Query) : Prop := i.sql = .text q.sql ∧ i.bindings = q.bindings

namespace Execution

/-- The statement of a selection is made behind the hooks: the one for any table and those for the tables have run on
the builder, and the statement is what it stands for when they have. -/
structure BehindHooks (env : Surroundings) (id : Nat) (tables : List Value) (s : Session) (i : Issued) : Prop where
  fired : ∃ early, (select.make id).exec env s = (.ok early, select.noted env id s) ∧
    Fired env (select.told id early) (anyTable :: tables) (select.noted env id s) (select.hooked env id s)
  made : ∃ q u, (compile id .select).exec env (select.hooked env id s) = (.ok q, u) ∧ i.Carries q

theorem behindHooks_of_ready (h : (select.ready id).exec env s = (.ok i, t)) :
    BehindHooks env id ((select.noted env id s).tablesOf id) s i := by
  obtain ⟨early, hmake, hremake⟩ := ready_eq_ok h
  obtain ⟨-, q, v, hq, rfl⟩ := exec_prepare_eq_ok hremake
  refine ⟨⟨early, hmake, ?_⟩, q, v, hq, rfl, rfl⟩
  obtain ⟨early', u, hmake', h⟩ := exec_bind_eq_ok h
  obtain ⟨answers, w, hfire, -⟩ := exec_bind_eq_ok h
  have hhooked : select.hooked env id s = w := by
    unfold hooked
    rw [exec_bind_ok hmake', hfire]
  rw [hmake] at hmake'
  cases hmake'
  rw [hhooked]
  exact fired_of_fire rfl hfire

/-- The hooks are those of the tables that the builder has declared, as long as groups leave it alone. -/
theorem tablesOf_noted {d : Draft} {early : Issued} (hs : s.Has id b d)
    (hscripts : Confined (UntouchedBelow s.builders.size) env (compile id .select) s)
    (h : (select.make id).exec env s = (.ok early, t)) : t.tablesOf id = s.tablesOf id := by
  obtain ⟨q, u, hq, hnoted⟩ := exec_bind_eq_ok h
  cases hnoted
  rw [← hscripts] at hq
  have hu : u.Has id b d := (Keeps.untouchedBelow.compile id .select).of_exec hq id hs.lt b d hs
  have htables : u.tablesOf id = s.tablesOf id := by
    rw [tablesOf_eq hu.builder, hu.draft, tablesOf_eq hs.builder, hs.draft]
  exact htables

/-- What comes to the same in all these states is noted in the same way in all of them. -/
theorem exec_make_of_settled {q : Query} (hq : Settled P env (compile id .select) (.ok q))
    (hnoted : ∀ t i, P t → P { t with lastStatement := some i }) (hs : P s)
    (h : (select.make id).exec env s = (.ok i, t)) : P t ∧ i.Carries q := by
  obtain ⟨q', u, hq', h⟩ := exec_bind_eq_ok h
  obtain ⟨u', hu', hPu⟩ := hq s hs
  rw [hq'] at hu'
  cases hu'
  cases h
  exact ⟨hnoted _ _ hPu, rfl, rfl⟩

/-! ### The calls of the driver -/

/-- The statement is handed over in that state. The other calls of the driver are those in front of it and behind it. -/
def HandedOver (s : Session) (i : Issued) (t u : Session) : Prop :=
  ∃ ms ms', Course s ms t ∧ Course (t.called (.execute i.sql i.bindings)) ms' u

namespace HandedOver

variable {v : Session}

theorem of_front (hfront : Courses (fun _ => True) s t) (h : HandedOver t i u v) : HandedOver s i u v := by
  obtain ⟨ms, -, hfront⟩ := hfront
  obtain ⟨ms', ms'', hbefore, hbehind⟩ := h
  exact ⟨_, ms'', hfront.append hbefore, hbehind⟩

theorem of_back (h : HandedOver s i t u) (hback : Courses (fun _ => True) u v) : HandedOver s i t v := by
  obtain ⟨ms, ms', hbefore, hbehind⟩ := h
  obtain ⟨ms'', -, hback⟩ := hback
  exact ⟨ms, _, hbefore, hbehind.append hback⟩

end HandedOver

variable [env.Keeps (Courses fun _ => True)]

/-- Behind the statement of a selection the driver is called by hooks only. -/
theorem Reaches.handedOver_selectRows (h : select.Reaches env id s i t) :
    HandedOver s i t ((selectRows id).exec env s).2 := by
  obtain ⟨ms, -, hfront⟩ := (course_ready id .select).of_exec h.ready
  have hbehind : ∀ result : QueryResult, Keeps (Courses fun _ => True) env (do
      let _ ← fire id .afterSelect (some i) (.map [timing])
      pure result.rows) := fun _ => .bind (.blind (blind_fire _ _ _ _)) fun _ => .pure _
  obtain ⟨ms', hback⟩ := exists_course_of_run h.isOpen hbehind
  rw [selectRows_eq, exec_bind_ok h.ready, exec_bind, h.exec_handOver, ← exec_bind]
  exact ⟨ms, ms', hfront, hback⟩

/-- The draft gets its projection and its order back without a call of the driver. -/
theorem courses_withProjection {operation : Act α} {expression : Value} (hb : s.builders[id]? = some b) :
    Courses (fun _ => True) (operation.exec env (s.swapping b.draft expression)).2
      ((withProjection id [.plain expression] operation).exec env s).2 := by
  -- whatever the operation has come to, only the draft is changed behind it
  let former : Draft := s.drafts[b.draft]?.getD {}
  have hrestore : Keeps (Courses fun _ => True) env
      (Act.modifyDraft id fun now => { now with selects := former.selects, orderBys := former.orderBys }) :=
    Keeps.working.modifyDraft _ (fun _ => rfl) fun _ => rfl
  have hrest : ∀ outcome : Except Fault α, Keeps (Courses fun _ => True) env (do
      Act.modifyDraft id fun now => { now with selects := former.selects, orderBys := former.orderBys }
      Act.lift outcome) := fun _ => hrestore.bind fun _ => .lift _
  unfold withProjection
  rw [exec_bind_ok (exec_draft hb), exec_bind_ok (exec_modifyDraft hb _)]
  change Courses _ _ ((tryCatch (do pure (Except.ok (← operation))) (fun fault => pure (.error fault)) >>= _).exec env
    (s.swapping b.draft expression)).2
  rw [exec_bind_ok (exec_observed operation)]
  exact hrest _ _

omit [env.Keeps (Courses fun _ => True)] in
/-- What the call makes of the rows is not asked of the driver. -/
theorem courses_summarized (c : BuilderCall) (rows : Act (List Row)) (s : Session) :
    Courses (fun _ => True) (rows.exec env s).2 ((rows >>= c.summarized).exec env s).2 := by
  rw [exec_bind]
  rcases rows.exec env s with ⟨outcome, t⟩
  cases outcome with
  | error fault => exact refl_of (Courses fun _ => True) t
  | ok rows =>
      obtain ⟨outcome, n, hsummarized⟩ : ∃ outcome n, (c.summarized rows).exec env t =
          (outcome, { t with unnumbered := n }) := c.exec_summarized rows t
      dsimp only
      rw [hsummarized]
      exact .of_still (.still rfl rfl (.of_eq rfl))

end Execution

namespace Session

open Execution

variable {c : BuilderCall} {function content shortName : String} {field : Value} {role : BuilderRole} {q : Query}

/-! ### The builder itself -/

/-- What the statement of the builder is made of is in the second session as in the first one while the draft selects
the expression, and groups come to the same. -/
def Selects (env : Surroundings) (id : Nat) (content : String) (s t : Session) : Prop :=
  ∃ b P Q, s.builders[id]? = some b ∧ P s ∧ Q t ∧
    (s.footprint id).Compares env P Q s (s.swapping b.draft (.raw (.text content) []))

/-- The session with a new builder that selects the expression over the statement of another one. -/
def enclosing (s : Session) (role : BuilderRole) (shortName content : String) (q : Query) : Session :=
  s.wrapping role (.raw (.text (q.enclosed.sql ++ " AS " ++ shortName)) q.bindings) (.raw (.text content) [])

/-- What the draft declares behind the hooks is what the statement says. -/
theorem says_of_behindHooks {d : Draft} (h : BehindHooks env id tables s i)
    (hd : (select.hooked env id s).Has id b d)
    (hscripts : Confined (UntouchedBelow (select.hooked env id s).builders.size) env (compile id .select)
      (select.hooked env id s)) : ∃ clauses own members,
    d.Comes env (env.depth - 1) (UntouchedBelow (select.hooked env id s).builders.size) (select.hooked env id s)
      clauses ∧
    clauses.select (.ofEngine (select.hooked env id s).driver.engine) = .ok own ∧ i.Carries (own.united members) := by
  obtain ⟨q, u, hq, hcarries⟩ := h.made
  obtain ⟨clauses, own, members, v, hclauses, hown, rfl⟩ := compile_select_eq_ok hd.builder hq
  exact ⟨clauses, own, members, hd.comes hscripts hq hclauses, hown, hcarries⟩

/-- Where the hooks do the same for both selections, the one has the expression in place of what the other projects. -/
theorem swaps_of_behindHooks {tables₀ : List Value} {i₀ : Issued} (h₀ : BehindHooks env id tables₀ s i₀)
    (h : BehindHooks env id tables t i) (hlinked : (select.hooked env id s).Linked)
    (hplain : ((select.hooked env id s).declared id).shapesRows = false)
    (hselects : (select.hooked env id s).Selects env id content (select.hooked env id t)) :
    ∃ (clauses : Clauses) (q₀ q : Query),
      clauses.SwapsTo (.ofEngine (select.hooked env id s).driver.engine) content q₀ q ∧ i₀.Carries q₀ ∧
        i.Carries q := by
  obtain ⟨q₀, u, hq₀, hcarries₀⟩ := h₀.made
  obtain ⟨q, v, hq, hcarries⟩ := h.made
  obtain ⟨b, P, Q, hb, hP, hQ, hcompares⟩ := hselects
  obtain ⟨-, clauses, q', -, hswaps, hsettled, -⟩ :=
    settled_compile_swapping hlinked hb hplain hP hcompares hq₀
  obtain ⟨w, hw, -⟩ := hsettled _ hQ
  rw [hq] at hw
  cases hw
  exact ⟨clauses, q₀, q, hswaps, hcarries₀, hcarries⟩

section

variable [env.Keeps (Courses fun _ => True)]
  (hperform : (c.perform id).exec env s = (expressionRows id (.raw (.text content) []) >>= c.summarized).exec env s)

include hperform

/-- The aggregate hands over what the builder selects in place of its projection. -/
theorem handedOver_swapping (hb : s.builders[id]? = some b) (hplain : (s.declared id).shapesRows = false)
    (h : select.Reaches env id (s.swapping b.draft (.raw (.text content) [])) i t) :
    HandedOver s i t ((c.perform id).exec env s).2 := by
  have hswap : Courses (fun _ => True) s (s.swapping b.draft (.raw (.text content) [])) :=
    .of_still (.still rfl rfl (.of_eq rfl))
  have hrows := (h.handedOver_selectRows.of_front hswap).of_back (courses_withProjection hb)
  have hexec : (expressionRows id (.raw (.text content) [])).exec env s = _ := exec_expressionRows hb _
  rw [if_neg (Bool.eq_false_iff.1 (declared_eq hb ▸ hplain))] at hexec
  rw [← hexec] at hrows
  rw [hperform]
  exact hrows.of_back (courses_summarized c _ s)

/-- The aggregate hands over what a new builder selects from the statement of the builder. -/
theorem handedOver_enclosing [env.Keeps Extends] (hb : s.builders[id]? = some b)
    (hshapes : (s.declared id).shapesRows = true) (hq : (compile id .select).exec env s = (.ok q, t))
    (hshort : (Dialect.ofEngine t.driver.engine).identifier (.text "count") = .ok shortName)
    (h : select.Reaches env t.builders.size (t.enclosing b.role shortName content q) i u) :
    HandedOver s i u ((c.perform id).exec env s).2 := by
  have hextends : Extends s t := (Keeps.working.toMaking.compile id .select).of_exec hq
  obtain ⟨b', hb', hrole, -⟩ := hextends.builders id b hb
  have hcompile : Courses (fun _ => True) s t := (Keeps.working.toMaking.compile id .select).of_exec hq
  have hroles : Roles t (t.enclosing b.role shortName content q) := by
    rintro scope k ⟨own, hown, hscope⟩
    exact ⟨own, getElem?_push_of_some hown, hscope⟩
  have hnew : Courses (fun _ => True) t (t.enclosing b.role shortName content q) :=
    .of_still (.still rfl rfl hroles)
  have hsub : (Declare.subQuery (.builder b.role.kind id) (.text "count")).exec env s = _ :=
    Declare.exec_subQuery hq rfl hshort
  have hrows := h.handedOver_selectRows.of_front (trans_of (Courses fun _ => True) hcompile hnew)
  have hexec : (expressionRows id (.raw (.text content) [])).exec env s = _ := exec_expressionRows hb _
  rw [if_pos (declared_eq hb ▸ hshapes), exec_bind_ok hsub, exec_wrapped hb', hrole] at hexec
  change _ = (selectRows t.builders.size).exec env (t.enclosing b.role shortName content q) at hexec
  rw [← hexec] at hrows
  rw [hperform]
  exact hrows.of_back (courses_summarized c _ s)

end

/-! ### A builder around the statement -/

section Enclosing

variable {depth n : Nat} (hdepth : env.depth = depth + 1) (hcontent : Text.Solid content)
  (hshort : Text.Ends shortName)

include hdepth hcontent hshort

/-- Only the hook for any table runs on a builder around a statement. -/
theorem behindHooks_enclosing
    (h : (select.ready s.builders.size).exec env (s.enclosing role shortName content q) = (.ok i, t)) :
    BehindHooks env s.builders.size [] (s.enclosing role shortName content q) i := by
  let w := s.enclosing role shortName content q
  obtain ⟨⟨early, hmake, hfired⟩, hmade⟩ := behindHooks_of_ready h
  obtain ⟨hgrown, -⟩ := exec_make_of_settled (settled_compile_wrapping hdepth hcontent hshort q)
    (fun _ i hu => hu.noting (some i)) (.refl w) hmake
  rw [tablesOf_eq (has_wrapping hgrown).builder, (has_wrapping hgrown).draft] at hfired
  refine ⟨⟨early, hmake, hfired.of_append_raws [anyTable] fun v hv => ?_⟩, hmade⟩
  rw [List.mem_singleton.1 hv]
  rfl

/-- Without that hook nothing happens between the statement of the other builder and the one around it. -/
theorem carries_wrapped (hnone : s.hooks.running? .beforeSelect anyTable = none)
    (h : (select.ready s.builders.size).exec env (s.enclosing role shortName content q) = (.ok i, t)) :
    i.Carries (q.wrapped content shortName) ∧ t.driver = s.driver ∧ t.journal = s.journal := by
  let w := s.enclosing role shortName content q
  have hsettled : Settled w.Grown env (compile s.builders.size .select) _ :=
    settled_compile_wrapping hdepth hcontent hshort q
  have hnoted : ∀ u i, w.Grown u → w.Grown { u with lastStatement := some i } := fun _ i hu => hu.noting (some i)
  obtain ⟨⟨early, hmake, hfired⟩, -⟩ := behindHooks_enclosing hdepth hcontent hshort h
  obtain ⟨hgrown, -⟩ := exec_make_of_settled hsettled hnoted (.refl w) hmake
  have hsame := hfired.eq_of_none fun table htable => by
    rw [List.mem_singleton.1 htable, hgrown.hooks]
    exact hnone
  -- no hook has run in between, so the second compilation starts where the first one has ended
  obtain ⟨_, -, hremake⟩ := ready_eq_ok h
  rw [hsame] at hremake
  obtain ⟨ht, hcarries⟩ := exec_make_of_settled hsettled hnoted hgrown hremake
  exact ⟨hcarries, ht.driver, ht.journal⟩

end Enclosing

theorem linked_hooked [env.Keeps (Links [])] (hs : s.Linked) : (select.hooked env id s).Linked := by
  have hkeeps : Keeps (Links []) env (do fire id .beforeSelect (some (← select.make id)) .null) :=
    .bind (Links.working.toMaking.make .get id .select) fun _ => Links.working.fire _ _ _ _
  exact hs.exec hkeeps

/-- The hooks in front of an aggregate. Those for any table and for the tables of a builder that does not shape its rows
run on the builder, the statement of the aggregate has all conditions that the builder then declares, and it is the one
of a selection behind the same hooks with the function in place of what that projects. A builder that shapes its rows is
compiled before any hook has run. The function is selected over that statement by a new builder, for which only the hook
for any table runs. -/
theorem summary_behind_hooks [env.Keeps (Courses fun _ => True)] [env.Keeps Extends] [env.Keeps (Links [])]
    (hs : s.Linked) (hb : s.builders[id]? = some b) (hc : c.summary? = some (function, field))
    (hexpression : (s.declared id).summary (.ofEngine s.driver.engine) function field =
      .ok (.raw (.text content) [])) :
    (¬(s.declared id).Shaped → ∀ v i t, v = s.swapping b.draft (.raw (.text content) []) →
      select.Reaches env id v i t →
      HandedOver s i t ((c.perform id).exec env s).2 ∧
      BehindHooks env id ((select.noted env id v).tablesOf id) v i ∧
      (Confined (UntouchedBelow s.builders.size) env (compile id .select) v →
        (select.noted env id v).tablesOf id = s.tablesOf id) ∧
      (∀ b' d, (select.hooked env id v).Has id b' d →
        Confined (UntouchedBelow (select.hooked env id v).builders.size) env (compile id .select)
          (select.hooked env id v) →
        ∃ clauses own members, d.Comes env (env.depth - 1) (UntouchedBelow (select.hooked env id v).builders.size)
            (select.hooked env id v) clauses ∧
          clauses.select (.ofEngine (select.hooked env id v).driver.engine) = .ok own ∧
          i.Carries (own.united members)) ∧
      ∀ i₀ t₀, select.Reaches env id s i₀ t₀ → ¬((select.hooked env id s).declared id).Shaped →
        (select.hooked env id s).Selects env id content (select.hooked env id v) →
        ∃ (clauses : Clauses) (q₀ q : Query),
          clauses.SwapsTo (.ofEngine (select.hooked env id s).driver.engine) content q₀ q ∧ i₀.Carries q₀ ∧
            i.Carries q) ∧
    ((s.declared id).Shaped → ∀ q u, (compile id .select).exec env s = (.ok q, u) → ∃ shortName,
      (Dialect.ofEngine u.driver.engine).identifier (.text "count") = .ok shortName ∧
      ∀ v i t, v = u.enclosing b.role shortName content q → select.Reaches env u.builders.size v i t →
        HandedOver s i t ((c.perform id).exec env s).2 ∧
        BehindHooks env u.builders.size [] v i ∧
        (u.hooks.running? .beforeSelect anyTable = none →
          i.Carries (q.wrapped content shortName) ∧ t.driver = u.driver ∧ t.journal = u.journal)) := by
  have hperform : (c.perform id).exec env s = _ := BuilderCall.exec_summary_of_ok hc hb hexpression
  constructor
  · rintro hshaped v i t rfl hreaches
    have hplain : (s.declared id).shapesRows = false := Draft.shapesRows_eq_false_iff.2 hshaped
    have hbehind := behindHooks_of_ready hreaches.ready
    have hhas : (s.swapping b.draft (.raw (.text content) [])).Has id b _ :=
      Has.modify ⟨hb, hs.draft_declared hb⟩ (.swapped (.raw (.text content) []))
    refine ⟨handedOver_swapping hperform hb hplain hreaches, hbehind, fun hscripts => ?_,
      fun b' d hd hscripts => says_of_behindHooks hbehind hd hscripts, fun i₀ t₀ hreaches₀ hplain₀ hselects => ?_⟩
    · obtain ⟨early, hmake, -⟩ := hbehind.fired
      rw [tablesOf_noted hhas hscripts hmake, tablesOf_eq hb, tablesOf_eq hhas.builder,
        drafts_swapping (hs.draft id b hb)]
      rfl
    · exact swaps_of_behindHooks (behindHooks_of_ready hreaches₀.ready) hbehind (linked_hooked hs)
        (Draft.shapesRows_eq_false_iff.2 hplain₀) hselects
  · intro hshaped q u hq
    obtain ⟨depth, hdepth⟩ := exists_depth_of_compile hb hq
    obtain ⟨shortName, hshort, hends⟩ := Dialect.exists_identifier u.driver.engine (.inr rfl)
    have hsolid : Text.Solid content := by
      obtain ⟨operand, name, -, hname, hcontent⟩ := Draft.summary_eq_ok hexpression
      obtain ⟨name', hname', hends'⟩ := Dialect.exists_identifier s.driver.engine (.inl rfl)
      cases hname.symm.trans hname'
      cases hcontent
      exact BuilderCall.solid_summary hc operand hends'
    refine ⟨shortName, hshort, ?_⟩
    rintro v i t rfl hreaches
    exact ⟨handedOver_enclosing hperform hb ((Draft.shapesRows_iff _).2 hshaped) hq hshort hreaches,
      behindHooks_enclosing hdepth hsolid hends hreaches.ready,
      fun hnone => carries_wrapped hdepth hsolid hends hnone hreaches.ready⟩

/-- A builder for people, for whom a hook declares that they belong to one tenant. -/
def tenants (number : Option Value) : Session :=
  { watched .beforeSelect restricting [] with
    drafts := #[{ Draft.over (.text "people") with limit := number }, .over (.text "journal")] }

theorem linked_tenants (number : Option Value) : (tenants number).Linked where
  draft id b hb := by
    rcases id with _ | _ | id <;> cases hb
    · exact Nat.two_pos
    · exact Nat.one_lt_two
  join n d hd j hj := by
    rcases n with _ | _ | n <;> cases hd <;> cases hj
  union n d hd u hu := by
    rcases n with _ | _ | n <;> cases hd <;> cases hu

/-- All people of the tenant while their number is selected. -/
def tenantsCounted : Session := (tenants none).swapping 0 (.raw (.text "COUNT(*) AS `field`") [])

theorem resolve_tenantsCounted (fill : Nat → Value → Run Unit) (notify : String → Nat → HookCall → Run Value) :
    (StatementRequest.select.resolve 0).exec ⟨fill, notify, 2⟩ tenantsCounted =
      (.ok (.select (.mk (Resolve.withPages (Resolve.opening (tenantsCounted.declared 0)) (tenantsCounted.declared 0))
        [])), tenantsCounted) := rfl

/-- The people are tenantsCounted behind the hook, so that only those of the tenant count. -/
theorem summary_behind_hooks_tenants : ∃ i t,
    (tenants none).hooks.running? .beforeSelect (.text "people") = some (.hook "watch" 0) ∧
    BehindHooks (Play.surroundings 2) 0 [.text "people"] tenantsCounted i ∧
    i.sql.text? = some "SELECT COUNT(*) AS `field` FROM `people` WHERE `tenant` = ?" ∧
    HandedOver (tenants none) i t
      (((BuilderCall.count (.text "*")).perform 0).exec (Play.surroundings 2) (tenants none)).2 := by
  have hscripts : Confined (UntouchedBelow 2) (Play.surroundings 2) (compile 0 .select) tenantsCounted :=
    (exec_compile (resolve_tenantsCounted _ _)).trans (exec_compile (resolve_tenantsCounted _ _)).symm
  obtain ⟨i, t, hreaches, hlanding⟩ := reaches_of_landing .select (Play.surroundings 2) 0 tenantsCounted
    (l := ⟨some "SELECT COUNT(*) AS `field` FROM `people` WHERE `tenant` = ?",
      some "SELECT COUNT(*) AS `field` FROM `people` WHERE `tenant` = ?", none⟩) (by decide +kernel)
  have hcontent : "COUNT(*) AS `field`" = Text.upper "count" ++ "(" ++ "*" ++ ") AS " ++ "`field`" := by decide +kernel
  have hexpression : ((tenants none).declared 0).summary (.ofEngine (tenants none).driver.engine) "count" (.text "*") =
      .ok (.raw (.text "COUNT(*) AS `field`") []) := by
    rw [hcontent]
    exact Draft.summary_of_offers (by decide) (.inl rfl) rfl rfl "count"
  obtain ⟨hover, hbehind, htables, -⟩ :=
    (summary_behind_hooks (c := .count (.text "*")) (linked_tenants none) rfl rfl hexpression).1
      (Draft.shapesRows_eq_false_iff.1 rfl) tenantsCounted i t rfl hreaches
  rw [htables hscripts] at hbehind
  exact ⟨i, t, rfl, hbehind, congrArg Landing.text hlanding, hover⟩

/-- A count of no more than five people is made without the hook, whose condition the same people are fetched with. -/
theorem not_summary_behind_hooks :
    (tenants (some (.int 5))).hooks.running? .beforeSelect (.text "people") = some (.hook "watch" 0) ∧
    ((BuilderCall.fetchAll.perform 0).exec (Play.surroundings 2) (tenants (some (.int 5)))).2.journal.map summary =
      [some "watch", some "SELECT * FROM `people` WHERE `tenant` = ? LIMIT 5"] ∧
    (((BuilderCall.count (.text "*")).perform 0).exec (Play.surroundings 2) (tenants (some (.int 5)))).2.journal.map
      summary = [some "SELECT COUNT(*) AS `field` FROM (SELECT * FROM `people` LIMIT 5) AS `count`"] :=
  ⟨rfl, by decide +kernel, by decide +kernel⟩

end Session

end SqlBuilder
