import SqlBuilder.Proofs.Session.Aggregating
import SqlBuilder.Proofs.Session.Members
import SqlBuilder.Proofs.Session.Mirroring
import SqlBuilder.Proofs.Statement.Swapping

/-!
What a builder compiles to while its draft selects an expression. As long as the groups come to the same, it is the
statement that the builder compiles to otherwise, with the expression in place of what is projected and without the
order.
-/

namespace SqlBuilder

open Act

variable {α β γ δ : Type} {P Q : Session → Prop} {R : α → β → Prop} {S : γ → δ → Prop} {env : Surroundings}

namespace Act

/-- Where the first operation succeeds in a state of the one kind, the second one succeeds in all states of the other
kind with a result that is related to that of the first. They do not leave these states. -/
def Follows (P Q : Session → Prop) (R : α → β → Prop) (env : Surroundings) (op : Act α) (op' : Act β) : Prop :=
  ∀ s x t, P s → op.exec env s = (.ok x, t) → P t ∧ ∃ y, R x y ∧ Settled Q env op' (.ok y)

namespace Follows

theorem pure {x : α} {y : β} (h : R x y) : Follows P Q R env (Pure.pure x) (Pure.pure y) := by
  intro s _ t hs hexec
  cases hexec
  exact ⟨hs, y, h, .pure y⟩

theorem bind {op : Act α} {op' : Act β} {k : α → Act γ} {k' : β → Act δ} (hop : Follows P Q R env op op')
    (hk : ∀ x y, R x y → Follows P Q S env (k x) (k' y)) : Follows P Q S env (op >>= k) (op' >>= k') := by
  intro s z u hs hexec
  obtain ⟨x, t, hx, hz⟩ := exec_bind_eq_ok hexec
  obtain ⟨ht, y, hxy, hy⟩ := hop s x t hs hx
  obtain ⟨hu, w, hzw, hw⟩ := hk x y hxy t z u ht hz
  exact ⟨hu, w, hzw, hy.bind hw⟩

theorem of_alike {op op' : Act α} (h : Alike P Q env op op') : Follows P Q Eq env op op' := by
  obtain ⟨outcome, h, h'⟩ := h
  intro s x t hs hexec
  obtain ⟨u, hu, hPu⟩ := h s hs
  rw [hexec] at hu
  cases hu
  exact ⟨hPu, x, rfl, h'⟩

theorem of_settled {op : Act α} {op' : Act β} {x : α} {y : β} (h : Settled P env op (.ok x))
    (h' : Settled Q env op' (.ok y)) (hxy : R x y) : Follows P Q R env op op' := by
  intro s _ t hs hexec
  obtain ⟨u, hu, hPu⟩ := h s hs
  rw [hexec] at hu
  cases hu
  exact ⟨hPu, y, hxy, h'⟩

theorem lift {outcome : Except Fault α} {outcome' : Except Fault β}
    (h : ∀ x, outcome = .ok x → ∃ y, outcome' = .ok y ∧ R x y) :
    Follows P Q R env (Act.lift outcome) (Act.lift outcome') := by
  intro s x t hs hexec
  rw [exec_lift] at hexec
  obtain ⟨rfl, rfl⟩ := Prod.mk.inj hexec
  obtain ⟨y, rfl, hxy⟩ := h x rfl
  exact ⟨hs, y, hxy, .lift _⟩

theorem check {outcome : Except Fault α} {outcome' : Except Fault β}
    (h : ∀ x, outcome = .ok x → ∃ y, outcome' = .ok y) :
    Follows P Q Eq env (Act.check outcome) (Act.check outcome') := by
  have hlift : Follows P Q (fun _ _ => True) env (Act.lift outcome) (Act.lift outcome') :=
    .lift fun x hx => (h x hx).imp fun _ hy => ⟨hy, trivial⟩
  exact hlift.bind fun _ _ _ => .pure rfl

end Follows

end Act

/-! ### The session while a draft selects an expression -/

namespace Session

variable {s : Session} {n : Nat} {expression : Value}

theorem drafts_swapping (hn : n < s.drafts.size) (expression : Value) :
    (s.swapping n expression).drafts[n]?.getD {} = (s.drafts[n]?.getD {}).swapped expression := by
  unfold swapping
  rw [Array.getElem?_modify, if_pos rfl, Array.getElem?_eq_getElem hn]
  rfl

/-- What a change of a draft leaves alone is read as before. -/
theorem read_modify (drafts : Array Draft) (n : Nat) {g : Draft → Draft} {f : Draft → α} (hf : ∀ d, f (g d) = f d)
    (m : Nat) : f ((drafts.modify n g)[m]?.getD {}) = f (drafts[m]?.getD {}) := by
  rw [Array.getElem?_modify]
  by_cases hnm : n = m
  · rw [if_pos hnm]
    cases drafts[m]? with
    | none => rfl
    | some d => exact hf d
  · rw [if_neg hnm]

/-- What is read of a draft apart from its projection and its order is the same. -/
theorem read_swapping (s : Session) (n : Nat) (expression : Value) {f : Draft → α}
    (hf : ∀ d : Draft, f (d.swapped expression) = f d) (m : Nat) :
    f ((s.swapping n expression).drafts[m]?.getD {}) = f (s.drafts[m]?.getD {}) := read_modify s.drafts n hf m

theorem outline_swapping (s : Session) (n : Nat) (expression : Value) (j : DraftJoin) :
    (s.swapping n expression).outline j = s.outline j := by
  have hcriteria : ∀ k, ((s.swapping n expression).declared k).criteria = (s.declared k).criteria := by
    intro k
    have hbuilders : (s.swapping n expression).builders = s.builders := rfl
    unfold declared
    rw [hbuilders]
    cases s.builders[k]? with
    | none => rfl
    | some b => exact read_swapping s n expression (f := (·.criteria)) (fun _ => rfl) b.draft
  unfold outline
  simp only [hcriteria]

theorem holds_swapping {p : Footprint} (h : p.Holds s n) (expression : Value) :
    p.Holds (s.swapping n expression) n where
  draft := h.draft
  join j hj k hk := by
    rw [read_swapping s n expression (f := fun d => d.joins.getD []) fun _ => rfl] at hj
    exact h.join j hj k hk

end Session

namespace Resolve

variable {p : Footprint} {s : Session} {n : Nat} {expression : Value} {content : String}

section Swapping

variable (h : p.Compares env P Q s (s.swapping n (.raw (.text content) []))) (hn : p.Holds s n)
  (hkept : n < s.drafts.size) (hdistincts : (s.drafts[n]?.getD {}).distincts.getD [] = [])

/-- The clauses of the draft, and those of the draft that selects the expression. -/
structure Swapped (s : Session) (n : Nat) (content : String) (c c' : Clauses) : Prop where
  swapped : c' = c.swapped (.raw (.text content) [])
  tables : c.tables = (s.drafts[n]?.getD {}).tables.toList
  distincts : c.distincts = (s.drafts[n]?.getD {}).distincts.getD []

include h hn hkept hdistincts

theorem follows_selectClauses (depth : Nat) :
    Follows P Q (Swapped s n content) env (selectClauses depth n) (selectClauses depth n) := by
  have hn' := Session.holds_swapping hn (.raw (.text content) [])
  have hdraft := Session.drafts_swapping hkept (.raw (.text content) [])
  have hjoins : (((s.swapping n (.raw (.text content) [])).drafts[n]?.getD {}).joins.getD []).map
      (s.swapping n (.raw (.text content) [])).outline = ((s.drafts[n]?.getD {}).joins.getD []).map s.outline := by
    rw [hdraft]
    exact List.map_congr_left fun j _ => Session.outline_swapping s n _ j
  have hread : Settled P env (Act.draftAt n) _ := settled_draftAt h.left hn.draft
  have hread' : Settled Q env (Act.draftAt n) _ := settled_draftAt h.right hn.draft
  rw [hdraft] at hread'
  have horders : Follows P Q (fun _ terms => terms = []) env (orderBys n) (orderBys n) := by
    refine .bind (.of_settled hread hread' (R := fun _ d => d.orderBys = none) rfl) fun d d' hd => ?_
    refine .bind (.of_alike (alike_dialect h)) fun dialect _ hdialect => ?_
    subst hdialect
    rw [hd]
    exact .bind (.check fun _ _ => ⟨_, rfl⟩) fun _ _ _ => .pure rfl
  have hdialect : Follows P Q (fun dialect dialect' => dialect = .ofEngine s.driver.engine ∧ dialect' = dialect) env
      Act.dialect Act.dialect := by
    refine .of_settled (.dialect fun u hu => (h.left u hu).engine) (.dialect fun u hu => ?_) ⟨rfl, rfl⟩
    exact (h.right u hu).engine.trans h.engine
  have hopening : Follows P Q
      (fun own own' => own = s.drafts[n]?.getD {} ∧ own' = own.swapped (.raw (.text content) [])) env
      (Act.draftAt n) (Act.draftAt n) := .of_settled hread hread' ⟨rfl, rfl⟩
  refine .bind hdialect fun dialect dialect' hdialects => ?_
  obtain ⟨rfl, rfl⟩ := hdialects
  refine .bind hopening fun d d' hd => ?_
  obtain ⟨rfl, rfl⟩ := hd
  refine .bind (.check fun x hx => ⟨x, hx⟩) fun _ _ _ => .bind (.check fun x hx => ⟨x, hx⟩) fun _ _ _ => ?_
  refine .bind (.lift (R := Eq) fun x hx => ⟨x, hx, rfl⟩) fun qualifier _ hqualifier => ?_
  subst hqualifier
  refine .bind (.of_alike (alike_joins h hn hn' hjoins depth)) fun joins _ hjoins => ?_
  refine .bind (.of_alike (alike_wheres h hn.draft hn.draft (hdraft ▸ rfl) depth qualifier)) fun wheres _ hwheres => ?_
  refine .bind (.of_alike (alike_groupBys h hn.draft hn.draft (hdraft ▸ rfl))) fun groups _ hgroups => ?_
  refine .bind (.of_alike (alike_havings h hn.draft hn.draft (hdraft ▸ rfl) depth qualifier))
    fun havings _ hhavings => ?_
  refine .bind horders fun orders orders' horders => ?_
  subst hjoins hwheres hgroups hhavings horders
  refine .bind hopening fun d d' hd => ?_
  obtain ⟨rfl, rfl⟩ := hd
  refine .bind (.check fun q hq => ?_) fun _ _ _ => .pure ⟨rfl, rfl, rfl⟩
  obtain ⟨q', hswaps⟩ := Clauses.select_swapped content hdistincts hq
  exact ⟨q', hswaps.swapped⟩

end Swapping

theorem exec_each_nil {list : Draft → Option (List α)} {make : Nat → α → Act β}
    (h : (list (s.drafts[n]?.getD {})).getD [] = []) : (each list n make).exec env s = (.ok [], s) := by
  have hread : (Act.draftAt n).exec env s = (.ok (s.drafts[n]?.getD {}), s) := rfl
  have hfuel : 0 + maxEntries = 9999 + 1 := rfl
  unfold each
  rw [exec_bind_ok hread, h]
  dsimp only
  rw [List.length_nil, hfuel, eachFrom, exec_bind_ok hread, h]
  rfl

theorem exec_each_singleton {list : Draft → Option (List α)} {make : Nat → α → Act β} {x : α} {y : β}
    (h : (list (s.drafts[n]?.getD {})).getD [] = [x]) (hmake : (make 0 x).exec env s = (.ok y, s)) :
    (each list n make).exec env s = (.ok [y], s) := by
  have hread : (Act.draftAt n).exec env s = (.ok (s.drafts[n]?.getD {}), s) := rfl
  have hrest : (eachFrom list n make (9999 + 1) 1).exec env s = (.ok [], s) := by
    rw [eachFrom, exec_bind_ok hread, h]
    rfl
  have hfuel : 1 + maxEntries = 9999 + 1 + 1 := rfl
  unfold each
  rw [exec_bind_ok hread, h]
  dsimp only
  rw [List.length_singleton, hfuel, eachFrom, exec_bind_ok hread, h]
  exact (exec_bind_ok hmake).trans (exec_bind_ok hrest)

/-- What fails for the first entry fails for all of them. -/
theorem exec_each_error {t : Session} {list : Draft → Option (List α)} {make : Nat → α → Act β} {x : α}
    {rest : List α} {fault : Fault} (h : (list (s.drafts[n]?.getD {})).getD [] = x :: rest)
    (hmake : (make 0 x).exec env s = (.error fault, t)) : (each list n make).exec env s = (.error fault, t) := by
  have hread : (Act.draftAt n).exec env s = (.ok (s.drafts[n]?.getD {}), s) := rfl
  unfold each
  rw [exec_bind_ok hread, h]
  dsimp only
  rw [List.length_cons, Nat.succ_add, eachFrom, exec_bind_ok hread, h]
  exact exec_bind_error hmake

/-- A draft whose lists are not declared is read at once, at every depth. -/
theorem exec_selectClauses_of_none {d : Draft} {p q : Query} {pieces : List Query} {qualifier : Option String}
    (depth : Nat) (hd : s.drafts[n]?.getD {} = d) (hjoins : d.joins = none) (hwheres : d.wheres = none)
    (hgroups : d.groupBys = none) (hhavings : d.havings = none) (horders : d.orderBys = none)
    (hdistinct : (opening d).distinctClause (.ofEngine s.driver.engine) = .ok p)
    (htables : (opening d).tables.mapM (fun table => unlessCallable table
      (tableClause (.ofEngine s.driver.engine) (opening d).aliases table)) = .ok pieces)
    (hqualifier : qualifierOf (opening d).aliases (opening d).tables = .ok qualifier)
    (hq : (withPages (opening d) d).select (.ofEngine s.driver.engine) = .ok q) :
    (selectClauses depth n).exec env s = (.ok (withPages (opening d) d), s) := by
  have hread : (Act.draftAt n).exec env s = (.ok d, s) :=
    congrArg (fun d => ((.ok d : Except Fault Draft), s)) hd
  have heach : ∀ {α β : Type} (list : Draft → Option (List α)) (make : Nat → α → Act β), list d = none →
      (each list n make).exec env s = (.ok [], s) := by
    intro α β list make hnone
    refine exec_each_nil ?_
    rw [hd, hnone]
    rfl
  have hbound : ∀ qualifier (list : Draft → Option (List Criterion)), list d = none →
      (bound depth qualifier list n).exec env s = (.ok [], s) :=
    fun qualifier list hnone => exec_bind_ok (heach list _ hnone)
  have hcheck : ∀ {β : Type} {outcome : Except Fault β} {x : β}, outcome = .ok x →
      (Act.check outcome).exec env s = (.ok (), s) := by
    rintro β outcome x rfl
    rfl
  have hlift : (Act.lift (qualifierOf (opening d).aliases (opening d).tables)).exec env s = (.ok qualifier, s) := by
    rw [exec_lift, hqualifier]
  have hjoin : (joins depth n).exec env s = (.ok [], s) := heach _ _ hjoins
  have hgroup : (groupBys n).exec env s = (.ok [], s) := by
    unfold groupBys
    rw [exec_bind_ok hread, hgroups]
    rfl
  have horder : (orderBys n).exec env s = (.ok [], s) := by
    unfold orderBys
    rw [exec_bind_ok hread, horders]
    rfl
  unfold selectClauses
  rw [exec_bind_ok exec_dialect, exec_bind_ok hread]
  change (Act.check ((opening d).distinctClause _) >>= _).exec env s = _
  rw [exec_bind_ok (hcheck hdistinct), exec_bind_ok (hcheck htables), exec_bind_ok hlift, exec_bind_ok hjoin,
    exec_bind_ok (hbound qualifier _ hwheres), exec_bind_ok hgroup, exec_bind_ok (hbound qualifier _ hhavings),
    exec_bind_ok horder, exec_bind_ok hread]
  change (Act.check ((withPages (opening d) d).select _) >>= _).exec env s = _
  rw [exec_bind_ok (hcheck hq)]
  rfl

end Resolve

/-! ### Builders that are united with none -/

section Compile

variable {s t : Session} {id depth n : Nat} {b : Builder} {c : Clauses} {q : Query} {e : Engine}

theorem exists_depth_of_compile (hb : s.builders[id]? = some b)
    (h : (compile id .select).exec env s = (.ok q, t)) : ∃ depth, env.depth = depth + 1 := by
  rw [exec_compile_select hb] at h
  cases hdepth : env.depth with
  | zero =>
      rw [hdepth] at h
      cases h
  | succ depth => exact ⟨depth, rfl⟩

/-- Such a builder compiles to its own clauses. -/
theorem compile_select_alone (hb : s.builders[id]? = some b) (hdepth : env.depth = depth + 1)
    (hunions : ∀ c v, (Resolve.selectClauses depth b.draft).exec env s = (.ok c, v) →
      (v.drafts[b.draft]?.getD {}).unions.getD [] = [])
    (h : (compile id .select).exec env s = (.ok q, t)) : ∃ c,
      (Resolve.selectClauses depth b.draft).exec env s = (.ok c, t) ∧ c.select (.ofEngine s.driver.engine) = .ok q := by
  rw [exec_compile_select hb, hdepth] at h
  unfold projected at h
  rw [exec_bind_ok exec_dialect] at h
  obtain ⟨tree, u, htree, h⟩ := exec_bind_eq_ok h
  rw [exec_lift] at h
  obtain ⟨hrender, rfl⟩ := Prod.mk.inj h
  rw [Resolve.select, exec_bind_ok (exec_draftOf hb)] at htree
  obtain ⟨c, v, hc, htree⟩ := exec_bind_eq_ok htree
  rw [exec_bind_ok (Resolve.exec_each_nil (hunions c v hc))] at htree
  cases htree
  rw [SelectTree.render] at hrender
  obtain ⟨own, hown, hrender⟩ := exists_ok_of_bind hrender
  cases hrender
  exact ⟨c, hc, hown⟩

theorem settled_compile_alone (hdepth : env.depth = depth + 1)
    (hbuilder : ∀ s, P s → ∃ b, s.builders[id]? = some b ∧ b.draft = n)
    (hengine : ∀ s, P s → s.driver.engine = e)
    (hunions : ∀ s, P s → (s.drafts[n]?.getD {}).unions.getD [] = [])
    (hclauses : Settled P env (Resolve.selectClauses depth n) (.ok c)) (hq : c.select (.ofEngine e) = .ok q) :
    Settled P env (compile id .select) (.ok q) := by
  intro s hs
  obtain ⟨b, hb, rfl⟩ := hbuilder s hs
  obtain ⟨t, hc, ht⟩ := hclauses s hs
  have htree : (Resolve.select env.depth id).exec env s = (.ok (.mk c []), t) := by
    rw [hdepth, Resolve.select, exec_bind_ok (exec_draftOf hb), exec_bind_ok hc,
      exec_bind_ok (Resolve.exec_each_nil (hunions t ht))]
    rfl
  refine ⟨t, ?_, ht⟩
  rw [exec_compile_select hb]
  unfold projected
  rw [exec_bind_ok exec_dialect, exec_bind_ok htree, exec_lift, SelectTree.render, hengine s hs, hq]
  rfl

end Compile

end SqlBuilder
