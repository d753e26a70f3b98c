import SqlBuilder.Proofs.Session.Members
import SqlBuilder.Proofs.Session.Unspent

/-!
Rows that are selected. A fetch gives those of its builder, and a function over rows those of the builder or of a new
one for its statement. A result that is pending for the builder may take their place. A look for rows before an update
selects from a copy, for which nothing is pending.
-/

namespace SqlBuilder

open Act Session

variable {α : Type} {env : Surroundings} {W : Nat → Prop} {R : Session → Session → Prop} {r : Option QueryResult}
  {s t u : Session} {id : Nat} {c : BuilderCall}

/-! ### Fetches -/

namespace BuilderCall

/-- What a fetch declares in front of its selection. Other calls are no fetches. -/
def front? (id : Nat) : BuilderCall → Option (Act Unit)
  | fetchAll => some (pure ())
  | first => some (Act.modifyDraft id fun d => { d with limit := some (.int 1) })
  | find v field => some do
    let (operator, v) := Declare.operatorAndOperand (some (.text "=")) (some v)
    Declare.condition id "AND" field operator v
    Act.modifyDraft id fun d => { d with limit := some (.int 1) }
  | findAll field v => some do
    let (operator, v) := Declare.operatorAndOperand (some (.text "=")) (some v)
    Declare.condition id "AND" field operator v
  | _ => none

/-- The objects as the fetch gives them: all of them, or the first. -/
def shown : BuilderCall → List Value → Value
  | fetchAll | findAll _ _ => .list
  | _ => fun objects => objects.head?.getD .null

variable {front : Act Unit}

theorem perform_front (hc : c.front? id = some front) :
    c.perform id = (do
      front
      pure (c.shown (← Execute.fetchAll id))) := by
  cases c with
  | fetchAll | first | find v field | findAll field v =>
      cases hc
      simp only [perform, Execute.first, shown, bind_assoc, pure_bind]
  | _ => cases hc

end BuilderCall

/-- The fetch has come by its value: what it declares in front is declared, and the rows that are then selected, or
those of a result that takes their place, are made into objects. -/
inductive Fetched (env : Surroundings) (r : Option QueryResult) (id : Nat) (s : Session) :
    BuilderCall → Value → Session → Prop where
  | mk {c : BuilderCall} {front : Act Unit} {t u : Session} {b : Builder} {rows : List Row} {objects : List Value}
      (hc : c.front? id = some front) (hfront : front.exec env s = (.ok (), t)) (hrows : Draws env id t r rows)
      (hb : u.builders[id]? = some b) (hobjects : (Execution.objectsOf b.factory rows).exec env u = (.ok objects, u)) :
      Fetched env r id s c (c.shown objects) u

namespace Execute

/-- The objects are made of the rows in the state that the selection has left. -/
theorem exec_fetchAll_eq_ok {objects : List Value} (h : (fetchAll id).exec env s = (.ok objects, u)) :
    ∃ rows b, (selectRows id).exec env s = (.ok rows, u) ∧ u.builders[id]? = some b ∧
      (Execution.objectsOf b.factory rows).exec env u = (.ok objects, u) := by
  change (do
    let rows ← selectRows id
    let b ← Act.builder id
    Execution.objectsOf b.factory rows : Act (List Value)).exec env s = _ at h
  obtain ⟨rows, t, hrows, hrest⟩ := exec_bind_eq_ok h
  obtain ⟨b, v, hbuilder, hobjects⟩ := exec_bind_eq_ok hrest
  obtain ⟨hb, rfl⟩ := exec_builder_eq_ok hbuilder
  obtain rfl : u = v := by
    unfold Execution.objectsOf at hobjects
    split at hobjects
    · cases hobjects
      rfl
    · rw [exec_lift] at hobjects
      exact (congrArg Prod.snd hobjects).symm
  exact ⟨rows, b, hrows, hb, hobjects⟩

theorem taking_fetchAll [env.Keeps (Unspent W)] (hW : W id) : Keeps (Taking W id) env (fetchAll id) := by
  refine .bind (taking_selectRows hW) fun rows => .bind (.builder _) fun b => ?_
  dsimp only
  split
  · exact .pure _
  · exact .lift _

end Execute

namespace BuilderCall

variable [env.Keeps (Unspent W)] {front : Act Unit}

theorem unspent_front (hc : c.front? id = some front) : Keeps (Unspent W) env front := by
  cases c with
  | fetchAll =>
      cases hc
      exact .pure _
  | first =>
      cases hc
      exact Unspent.modifyDraft _ _
  | find v field =>
      cases hc
      exact .bind (Keeps.tending.condition _ _ _ _ _) fun _ => Unspent.modifyDraft _ _
  | findAll field v =>
      cases hc
      exact Keeps.tending.condition _ _ _ _ _
  | _ => cases hc

theorem taking_fetch (hW : W id) (hc : c.front? id = some front) : Keeps (Taking W id) env (c.perform id) := by
  rw [perform_front hc]
  refine .bind ((unspent_front hc).mono fun _ _ => Unspent.taking hW) fun _ => ?_
  exact .bind (Execute.taking_fetchAll hW) fun _ => .pure _

/-- A fetch that succeeds takes a pending result, or it has sent its own statement. -/
theorem fetched_of_exec (hW : W id) (hid : id < s.builders.size) (hc : c.front? id = some front) {v : Value}
    (h : (c.perform id).exec env s = (.ok v, u)) : u.owed id = none ∧ Fetched env (s.owed id) id s c v u := by
  rw [perform_front hc] at h
  obtain ⟨_, t, hfront, h⟩ := exec_bind_eq_ok h
  obtain ⟨objects, w, hfetch, h⟩ := exec_bind_eq_ok h
  cases h
  have hst : Unspent W s t := (unspent_front hc).of_exec hfront
  obtain ⟨rows, b, hselect, hb, hobjects⟩ := Execute.exec_fetchAll_eq_ok hfetch
  obtain ⟨hnone, hrows⟩ := (Execute.drawn_selectRows hW (Nat.lt_of_lt_of_le hid hst.size) hselect).rows rows rfl
  rw [hst.owed hW hid] at hrows
  exact ⟨hnone, .mk hc hfront hrows hb hobjects⟩

end BuilderCall

/-! ### Functions over rows -/

/-- The rows that hold the function: of the builder itself, which selects the function instead, or of a new builder for
its statement, if its draft shapes its rows. -/
inductive Summarized (env : Surroundings) (r : Option QueryResult) (id : Nat) (s : Session) (function : String)
    (field : Value) : List Row → Prop where
  | swapped {b : Builder} {expression : Value} {rows : List Row} (hb : s.builders[id]? = some b)
      (hplain : (s.declared id).shapesRows = false)
      (hexpression : (s.declared id).summary (.ofEngine s.driver.engine) function field = .ok expression)
      (hrows : Draws env id (s.swapping b.draft expression) r rows) : Summarized env r id s function field rows
  | wrapped {b b' : Builder} {expression fragment : Value} {t : Session} {rows : List Row}
      (hb : s.builders[id]? = some b) (hshapes : (s.declared id).shapesRows = true)
      (hexpression : (s.declared id).summary (.ofEngine s.driver.engine) function field = .ok expression)
      (hfragment : (Declare.subQuery (.builder b.role.kind id) (.text "count")).exec env s = (.ok fragment, t))
      (hb' : t.builders[id]? = some b')
      (hrows : Draws env t.builders.size (t.wrapping b'.role fragment expression) none rows) :
      Summarized env r id s function field rows

namespace Execute

variable [env.Keeps (Unspent W)] {b : Builder} {content : Value} {outcome : Except Fault (List Row)}

/-- The selection from a new builder leaves all results alone, since the builder has none. -/
theorem drawn_wrapped (hb : s.builders[id]? = some b) (hW : W s.builders.size) (content content' : Value)
    (bindings bindings' : List Value)
    (hexec : (wrapped id (.raw content bindings) (.raw content' bindings')).exec env s = (outcome, u)) :
    Unspent W s u ∧ ∀ rows, outcome = .ok rows →
      Draws env s.builders.size (s.wrapping b.role (.raw content bindings) (.raw content' bindings')) none rows := by
  rw [exec_wrapped hb] at hexec
  let t := s.wrapping b.role (.raw content bindings) (.raw content' bindings')
  have hsize : t.builders.size = s.builders.size + 1 := Array.size_push _
  have hb' : t.builders[s.builders.size]? = some ⟨b.role, s.drafts.size, s.lead, .bool s.overwriting, .null, none⟩ :=
    Array.getElem?_push_size
  have hnone : t.owed s.builders.size = none := owed_eq hb'
  have hdrawn := drawn_selectRows hW (hsize ▸ Nat.lt_succ_self _) hexec
  refine ⟨trans_of (Unspent W) (.of_push rfl) (hdrawn.unspent hnone), fun rows hrows => ?_⟩
  rw [← hnone]
  exact (hdrawn.rows rows hrows).2

section Rows

variable (hW : W id) (hb : s.builders[id]? = some b)
  (hexec : (expressionRows id (.raw content [])).exec env s = (outcome, u))

include hW hb hexec

/-- A draft that shapes its rows is selected from by way of a new builder. -/
theorem drawn_of_shapes (hnew : ∀ k, s.builders.size ≤ k → W k) (hshapes : (s.declared id).shapesRows = true) :
    Unspent W s u ∧ ∀ rows, outcome = .ok rows → ∃ fragment t b',
      (Declare.subQuery (.builder b.role.kind id) (.text "count")).exec env s = (.ok fragment, t) ∧
      t.builders[id]? = some b' ∧
      Draws env t.builders.size (t.wrapping b'.role fragment (.raw content [])) none rows := by
  rw [exec_expressionRows hb, ← declared_eq hb, if_pos hshapes] at hexec
  have hsub : Keeps (Unspent W) env (Declare.subQuery (.builder b.role.kind id) (.text "count")) :=
    Keeps.tending.toMaking.subQuery _ _
  rcases hfragment : (Declare.subQuery (.builder b.role.kind id) (.text "count")).exec env s with ⟨made, t⟩
  have hst := hsub.of_exec hfragment
  cases made with
  | error fault =>
      rw [exec_bind_error hfragment] at hexec
      cases hexec
      exact ⟨hst, nofun⟩
  | ok fragment =>
      obtain ⟨text, bindings, rfl⟩ := Declare.subQuery_eq_ok hfragment
      obtain ⟨b', hb', -⟩ := hst.pending id hW b hb
      rw [exec_bind_ok hfragment] at hexec
      obtain ⟨htu, hrows⟩ := drawn_wrapped hb' (hnew _ hst.size) text content bindings [] hexec
      exact ⟨trans_of _ hst htu, fun rows h => ⟨_, t, b', rfl, hb', hrows rows h⟩⟩

/-- Any other draft is selected from as it is, but for its projection and its order. -/
theorem drawn_of_plain (hplain : (s.declared id).shapesRows = false) :
    Taking W id s u ∧ ∀ rows, outcome = .ok rows →
      u.owed id = none ∧ Draws env id (s.swapping b.draft (.raw content [])) (s.owed id) rows := by
  rw [exec_expressionRows hb, ← declared_eq hb, if_neg (Bool.eq_false_iff.1 hplain)] at hexec
  have hid : id < s.builders.size := (Array.getElem?_eq_some_iff.1 hb).1
  rcases hselect : (selectRows id).exec env (s.swapping b.draft (.raw content [])) with ⟨ended, t⟩
  have hdrawn := drawn_selectRows hW (s := s.swapping b.draft (.raw content [])) hid hselect
  have hlt : id < t.builders.size := Nat.lt_of_lt_of_le hid hdrawn.size
  rw [exec_withProjection hb hselect (Array.getElem?_eq_getElem hlt)] at hexec
  cases hexec
  refine ⟨fun _ => ⟨hdrawn.size, fun hnone => ?_, hdrawn.owed⟩, hdrawn.rows⟩
  have hfront : Unspent W s (s.swapping b.draft (.raw content [])) := .of_eq rfl
  have hback : ∀ n d, Unspent W t (t.restoring n d) := fun _ _ => .of_eq rfl
  exact trans_of _ (trans_of _ hfront (hdrawn.unspent hnone)) (hback _ _)

end Rows

theorem unspent_summarize (rows : List Row) : Keeps (Unspent W) env (summarize rows) := by
  unfold summarize
  split
  · exact .pure _
  · exact .pure _
  · exact .bind (.lift _) fun _ => Keeps.tending.toIdling.marked _

end Execute

namespace BuilderCall

def summarized (c : BuilderCall) (rows : List Row) : Act Value := do Act.lift (c.rounded (← Execute.summarize rows))

variable {b : Builder} {function : String} {field v : Value} {outcome : Except Fault Value}

theorem exec_summary_of_ok (hc : c.summary? = some (function, field)) (hb : s.builders[id]? = some b)
    {expression : Value}
    (hexpression : (s.declared id).summary (.ofEngine s.driver.engine) function field = .ok expression) :
    (c.perform id).exec env s = (Execute.expressionRows id expression >>= c.summarized).exec env s := by
  rw [perform_summary hc, exec_bind, Execute.exec_aggregate hb, ← declared_eq hb, hexpression]
  dsimp only
  rw [← exec_bind, bind_assoc]
  rfl

theorem exec_summary_of_error (hc : c.summary? = some (function, field)) (hb : s.builders[id]? = some b)
    {fault : Fault} (hfault : (s.declared id).summary (.ofEngine s.driver.engine) function field = .error fault) :
    (c.perform id).exec env s = (.error fault, s) := by
  rw [perform_summary hc, exec_bind, Execute.exec_aggregate hb, ← declared_eq hb, hfault]

/-- Without an expression nothing is selected. -/
theorem exec_summary (hc : c.summary? = some (function, field)) (hb : s.builders[id]? = some b)
    (hexec : (c.perform id).exec env s = (outcome, u)) : (u = s ∧ ∀ v, outcome ≠ .ok v) ∨ ∃ content,
      (s.declared id).summary (.ofEngine s.driver.engine) function field = .ok (.raw content []) ∧
      (Execute.expressionRows id (.raw content []) >>= c.summarized).exec env s = (outcome, u) := by
  cases hexpression : (s.declared id).summary (.ofEngine s.driver.engine) function field with
  | error fault =>
      rw [exec_summary_of_error hc hb hexpression] at hexec
      cases hexec
      exact .inl ⟨rfl, nofun⟩
  | ok expression =>
      rw [exec_summary_of_ok hc hb hexpression] at hexec
      obtain ⟨_, _, -, -, rfl⟩ := Draft.summary_eq_ok hexpression
      exact .inr ⟨_, rfl, hexec⟩

variable [env.Keeps (Unspent W)]

theorem unspent_summarized (c : BuilderCall) (rows : List Row) : Keeps (Unspent W) env (c.summarized rows) :=
  .bind (Execute.unspent_summarize _) fun _ => .lift _

section Summary

variable (hc : c.summary? = some (function, field)) (hW : W id) (hb : s.builders[id]? = some b)
  (hexec : (c.perform id).exec env s = (outcome, u))

include hc hW hb hexec

theorem summary_of_shapes (hnew : ∀ k, s.builders.size ≤ k → W k) (hshapes : (s.declared id).shapesRows = true) :
    Unspent W s u ∧ ∀ v, outcome = .ok v → ∃ rows w, Summarized env r id s function field rows ∧
      (c.summarized rows).exec env w = (.ok v, u) := by
  obtain ⟨rfl, hfails⟩ | ⟨content, hexpression, hexec⟩ := exec_summary hc hb hexec
  · exact ⟨refl_of _ u, fun v hv => absurd hv (hfails v)⟩
  · rcases hselect : (Execute.expressionRows id (.raw content [])).exec env s with ⟨made, w⟩
    obtain ⟨hsw, hrows⟩ := Execute.drawn_of_shapes hW hb hselect hnew hshapes
    cases made with
    | error fault =>
        rw [exec_bind_error hselect] at hexec
        cases hexec
        exact ⟨hsw, nofun⟩
    | ok rows =>
        rw [exec_bind_ok hselect] at hexec
        refine ⟨trans_of _ hsw ((unspent_summarized c rows).of_exec hexec), fun v hv => ?_⟩
        obtain ⟨fragment, t, b', hfragment, hb', hdraws⟩ := hrows rows rfl
        exact ⟨rows, w, .wrapped hb hshapes hexpression hfragment hb' hdraws, hv ▸ hexec⟩

theorem summary_of_plain (hplain : (s.declared id).shapesRows = false) :
    Taking W id s u ∧ ∀ v, outcome = .ok v → u.owed id = none ∧ ∃ rows w,
      Summarized env (s.owed id) id s function field rows ∧ (c.summarized rows).exec env w = (.ok v, u) := by
  have hid : id < s.builders.size := (Array.getElem?_eq_some_iff.1 hb).1
  obtain ⟨rfl, hfails⟩ | ⟨content, hexpression, hexec⟩ := exec_summary hc hb hexec
  · exact ⟨refl_of _ u, fun v hv => absurd hv (hfails v)⟩
  · rcases hselect : (Execute.expressionRows id (.raw content [])).exec env s with ⟨made, w⟩
    obtain ⟨hsw, hrows⟩ := Execute.drawn_of_plain hW hb hselect hplain
    cases made with
    | error fault =>
        rw [exec_bind_error hselect] at hexec
        cases hexec
        exact ⟨hsw, nofun⟩
    | ok rows =>
        rw [exec_bind_ok hselect] at hexec
        have hwu : Unspent W w u := (unspent_summarized c rows).of_exec hexec
        obtain ⟨hnone, hdraws⟩ := hrows rows rfl
        refine ⟨trans_of _ hsw (hwu.taking hW), fun v hv => ⟨?_, rows, w, ?_, hv ▸ hexec⟩⟩
        · exact (hwu.owed hW (Nat.lt_of_lt_of_le hid (hsw hid).size)).trans hnone
        · exact .swapped hb hplain hexpression hdraws

end Summary

end BuilderCall

/-! ### Looking before an update -/

/-- A copy is a new builder without a pending result. -/
theorem Declare.fresh_clone {depth copy : Nat} (h : (clone depth id).exec env s = (.ok copy, t)) :
    s.builders.size ≤ copy ∧ copy < t.builders.size ∧ t.owed copy = none := by
  obtain ⟨b, hb, hnone⟩ := vacant_clone h
  refine ⟨?_, (Array.getElem?_eq_some_iff.1 hb).1, (owed_eq hb).trans hnone⟩
  cases depth with
  | zero => cases h
  | succ depth =>
      obtain ⟨b', v, hbuilder, hlooks⟩ := exec_bind_eq_ok h
      obtain ⟨d, v', hdraft, hcopying⟩ := exec_bind_eq_ok hlooks
      obtain ⟨joins, w, hjoins, hadding⟩ := exec_bind_eq_ok hcopying
      obtain ⟨-, rfl⟩ := exec_builder_eq_ok hbuilder
      obtain ⟨-, rfl⟩ := exec_draft_eq_ok hdraft
      have hcopies : Keeps (Unspent fun _ => True) env (d.joins.mapM fun joins => joins.mapM fun j => do
          pure { j with builder := ← j.builder.mapM (clone depth) }) :=
        Keeps.modular.optionMapM (fun joins => Keeps.modular.mapM (fun j =>
          .bind (Keeps.modular.optionMapM (Unspent.clone depth) _) fun _ => .pure _) joins) _
      have hsize := (hcopies.of_exec hjoins).size
      cases hadding
      exact hsize

section Probe

variable [env.Keeps (Unspent W)]

namespace Transaction

/-- The builder's own result is not looked at, and the copy has none. -/
theorem unspent_probe (hnew : ∀ k, s.builders.size ≤ k → W k) {copy : Nat} {outcome : Except Fault Value}
    (hcopy : (Declare.clone env.depth id).exec env s = (.ok copy, t))
    (hprobe : (Execute.first copy).exec env t = (outcome, u)) : Unspent W s u ∧
      ∀ row, outcome = .ok row → Fetched env none copy t .first row u := by
  obtain ⟨hsize, hlt, hnone⟩ := Declare.fresh_clone hcopy
  have hW : W copy := hnew copy hsize
  have hst : Unspent W s t := (Unspent.clone _ _).of_exec hcopy
  have htu : Taking W copy t u := (BuilderCall.taking_fetch (c := .first) hW rfl).of_exec hprobe
  refine ⟨trans_of _ hst ((htu hlt).unspent hnone), fun row hrow => ?_⟩
  subst hrow
  rw [← hnone]
  exact (BuilderCall.fetched_of_exec (c := .first) hW hlt rfl hprobe).2

theorem unspent_updateOrInsert (hnew : ∀ k, s.builders.size ≤ k → W k) {data : Value} {outcome : Except Fault Value}
    (hexec : (updateOrInsert id data).exec env s = (outcome, u)) : Unspent W s u := by
  obtain rfl : ((updateOrInsert id data).exec env s).2 = u := congrArg Prod.snd hexec
  unfold updateOrInsert
  rw [exec_bind, exec_read]
  refine Keeps.bind_at (Unspent.clone _ _) fun copy t hcopy => ?_
  rcases hprobe : (Execute.first copy).exec env t with ⟨outcome, v⟩
  obtain ⟨hsv, -⟩ := unspent_probe hnew hcopy hprobe
  cases outcome with
  | error fault =>
      rw [exec_bind_error hprobe]
      exact hsv
  | ok row =>
      rw [exec_bind_ok hprobe]
      refine trans_of _ hsv ?_
      split
      · exact keeps_insert .insert id data v
      · exact Keeps.bind (Execute.keeps_update id data) (fun _ => .pure _) v

end Transaction

end Probe

/-! ### Scripts that are kept to the relation -/

namespace Execution

variable {x : Execution} {i : Issued} {result : QueryResult} {d : Driver}

theorem Reaches.widen (h : x.Reaches (env.within R) id s i t) : x.Reaches env id s i t :=
  ⟨Widens.making.ready (fun _ _ _ h => h) id x _ _ _ h.ready, (Unscripted.requireOpen id).widens _ _ _ h.isOpen,
    h.idle⟩

theorem unscripted_objectsOf (factory : Value) (rows : List Row) : Unscripted (objectsOf factory rows) := by
  unfold objectsOf
  split
  · exact .pure _
  · exact .lift _

theorem Sends.widen (h : x.Sends (env.within R) id s result d) : x.Sends env id s result d := by
  obtain ⟨h, hanswer⟩ := h
  exact .mk h.widen hanswer

end Execution

theorem Draws.widen {rows : List Row} (h : Draws (env.within R) id s r rows) : Draws env id s r rows := by
  cases h with
  | sent h => exact .sent h.widen
  | pending result => exact .pending result

theorem BuilderCall.widens_front {front : Act Unit} (hc : c.front? id = some front) : Widens R env front := by
  have hcondition : ∀ joiner key operator operand, Widens R env (Declare.condition id joiner key operator operand) :=
    Widens.declaring.condition (K := []) (.inl trivial)
  cases c with
  | fetchAll =>
      cases hc
      exact Widens.making.pure _
  | first =>
      cases hc
      exact Widens.modifyDraft _ _
  | find v field =>
      cases hc
      exact Widens.making.bind (hcondition _ _ _ _) fun _ => Widens.modifyDraft _ _
  | findAll field v =>
      cases hc
      exact hcondition _ _ _ _
  | _ => cases hc

theorem Fetched.widen {v : Value} (h : Fetched (env.within R) r id s c v u) : Fetched env r id s c v u := by
  obtain ⟨hc, hfront, hrows, hb, hobjects⟩ := h
  exact .mk hc (BuilderCall.widens_front hc _ _ _ hfront) hrows.widen hb
    ((Execution.unscripted_objectsOf _ _).widens _ _ _ hobjects)

theorem Summarized.widen {function : String} {field : Value} {rows : List Row}
    (h : Summarized (env.within R) r id s function field rows) : Summarized env r id s function field rows := by
  cases h with
  | swapped hb hplain hexpression hrows => exact .swapped hb hplain hexpression hrows.widen
  | wrapped hb hshapes hexpression hfragment hb' hrows =>
      exact .wrapped hb hshapes hexpression (Widens.making.subQuery _ _ _ _ _ hfragment) hb' hrows.widen

theorem BuilderCall.widens_summarized (c : BuilderCall) (rows : List Row) : Widens R env (c.summarized rows) := by
  refine Widens.making.bind ?_ fun _ => Widens.making.lift _
  unfold Execute.summarize
  split
  · exact Widens.making.pure _
  · exact Widens.making.pure _
  · refine Widens.making.bind (Widens.making.lift _) fun x => ?_
    unfold Act.marked
    split
    · exact fun _ _ _ h => h
    · exact Widens.making.pure _

namespace Execute

theorem widens_selectRows (id : Nat) : Widens R env (selectRows id) := by
  rw [selectRows_eq]
  refine Widens.making.bind (Widens.making.ready (fun _ _ _ h => h) id _) fun i => ?_
  refine Widens.making.bind (Widens.making.bind (Widens.making.builder _) fun b => ?_) fun result =>
    Widens.making.bind (Widens.making.fire _ _ _ _) fun _ => Widens.making.pure _
  split
  · exact (Unscripted.handing _ _ _).widens
  · exact Widens.making.bind (fun _ _ _ h => h) fun _ => Widens.making.pure _

theorem widens_first (id : Nat) : Widens R env (first id) := by
  have hfetch : Widens R env (fetchAll id) :=
    Widens.making.bind (widens_selectRows _) fun _ => Widens.making.bind (Widens.making.builder _) fun b =>
      (Execution.unscripted_objectsOf b.factory _).widens
  exact Widens.making.bind (Widens.modifyDraft _ _) fun _ => Widens.making.bind hfetch fun _ => Widens.making.pure _

end Execute

end SqlBuilder
