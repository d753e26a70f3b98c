import SqlBuilder.Proofs.Session.Capping
import SqlBuilder.Proofs.Session.Sheltering
import SqlBuilder.Proofs.Session.Summarizing

/-!
The look for one row. A copy of a builder selects with one row as its limit, and hands the statement of the builder
with that limit to the driver. The builder is left as it is, as long as its groups add builders and drafts at most and
come to the same whenever they run.
-/

namespace SqlBuilder

open Act Session Footprint

variable {env : Surroundings} {K : Session → Prop} {s t u : Session} {id c : Nat} {b : Builder}

/-! ### The conditions of a copy -/

namespace Declare

theorem conditions_cloneJoins {depth : Nat} (hs : s.Linked) {js js' : List DraftJoin}
    (hjs : ∀ j ∈ js, ∀ k, j.builder = some k → k < s.builders.size)
    (h : (js.mapM (cloneJoin depth)).exec env s = (.ok js', t)) :
    ∀ j' ∈ js', ∀ k', j'.builder = some k' → ∃ j ∈ js, ∃ k, j.builder = some k ∧
      (t.declared k').conditions = (s.declared k).conditions := by
  induction js generalizing s js' with
  | nil =>
      cases h
      exact fun j' hj' => absurd hj' List.not_mem_nil
  | cons j js ih =>
      rw [List.mapM_cons] at h
      obtain ⟨j₁, u, hj, h⟩ := exec_bind_eq_ok h
      obtain ⟨js₁, v, hrest, h⟩ := exec_bind_eq_ok h
      cases h
      have hfirst := hjs j List.mem_cons_self
      have htail : ∀ j ∈ js, ∀ k, j.builder = some k → k < s.builders.size :=
        fun j hj => hjs j (List.mem_cons_of_mem _ hj)
      obtain ⟨hsu, hu, -⟩ := copied_cloneJoin (fun hs h => copied_clone hs h) hs hfirst hj
      have htail' : ∀ j ∈ js, ∀ k, j.builder = some k → k < u.builders.size :=
        fun j hj k hk => hsu.lt (htail j hj k hk)
      obtain ⟨hut, -⟩ := copied_cloneJoins (fun hs h => copied_clone hs h) hu htail' hrest
      refine List.forall_mem_cons.2 ⟨fun k' hk' => ?_, fun j' hj' k' hk' => ?_⟩
      · obtain ⟨kind, table, builder⟩ := j
        cases builder with
        | none =>
            cases hj
            cases hk'
        | some k =>
            obtain ⟨builder, w, hclone, hj⟩ := exec_bind_eq_ok hj
            obtain ⟨copy, w', hclone, hbuilder⟩ := exec_bind_eq_ok hclone
            cases hbuilder
            cases hj
            cases hk'
            have hcopied := copied_clone hs hclone
            refine ⟨_, List.mem_cons_self, k, rfl, ?_⟩
            rw [hut.declared_of_lt hcopied.linked hcopied.fresh.lt,
              hcopied.mirrors.read Draft.conditions fun _ _ => rfl, hcopied.keeping.declared_of_lt hs (hfirst k rfl)]
      · obtain ⟨j, hj, k, hk, hconditions⟩ := ih hu htail' hrest j' hj' k' hk'
        refine ⟨j, List.mem_cons_of_mem _ hj, k, hk, hconditions.trans ?_⟩
        rw [hsu.declared_of_lt hs (htail j hj k hk)]

/-- The joins of a copy have the conditions of those that they are copies of. -/
theorem conditions_clone {depth : Nat} (hs : s.Linked) (h : (clone depth id).exec env s = (.ok c, t)) :
    ∀ j' ∈ (t.declared c).joins.getD [], ∀ k', j'.builder = some k' →
      ∃ j ∈ (s.declared id).joins.getD [], ∃ k, j.builder = some k ∧
        (t.declared k').conditions = (s.declared k).conditions := by
  cases depth with
  | zero => cases h
  | succ depth =>
      rw [clone_succ] at h
      obtain ⟨b, u, hbuilder, h⟩ := exec_bind_eq_ok h
      obtain ⟨hb, hsame⟩ := exec_builder_eq_ok hbuilder
      rw [hsame, exec_bind_ok (exec_draft hb), ← Session.declared_eq hb] at h
      obtain ⟨joins, v, hjoins, h⟩ := exec_bind_eq_ok h
      have hjs : ∀ j ∈ (s.declared id).joins.getD [], ∀ k, j.builder = some k → k < s.builders.size :=
        fun j hj k hk => hs.join_lt (Array.getElem?_eq_some_iff.1 hb).1 hj hk
      cases h
      intro j' hj' k' hk'
      have hdeclared : Session.declared { v with
          drafts := v.drafts.push { s.declared id with joins }
          builders := v.builders.push { b with draft := v.drafts.size, pending := none } } v.builders.size =
          { s.declared id with joins } := by
        have hc : (v.builders.push { b with draft := v.drafts.size, pending := none })[v.builders.size]? =
            some { b with draft := v.drafts.size, pending := none } := Array.getElem?_push_size
        rw [Session.declared_eq hc]
        change (v.drafts.push _)[v.drafts.size]?.getD {} = _
        rw [Array.getElem?_push_size]
        rfl
      rw [hdeclared] at hj'
      cases hold : (s.declared id).joins with
      | none =>
          rw [hold] at hjoins
          cases hjoins
          cases hj'
      | some js =>
          rw [hold] at hjoins hjs
          obtain ⟨js', w, hmap, hpure⟩ := exec_bind_eq_ok hjoins
          cases hpure
          obtain ⟨-, hv, -, hfresh⟩ := copied_cloneJoins (fun hs h => copied_clone hs h) hs hjs hmap
          obtain ⟨j, hj, k, hk, hconditions⟩ := conditions_cloneJoins hs hjs hmap j' hj' k' hk'
          have hkeeping : Keeping v { v with
              drafts := v.drafts.push { s.declared id with joins := some js' }
              builders := v.builders.push { b with draft := v.drafts.size, pending := none } } :=
            (Keeping.pushDraft v _).trans (.pushBuilder _ _)
          refine ⟨j, hj, k, hk, ?_⟩
          rw [hkeeping.declared_of_lt hv (hfresh j' hj' k' hk').lt, hconditions]

end Declare

/-- All that a copy is made of has conditions that its original has, too. -/
theorem Session.conditions_footprint_copy {depth : Nat} (hs : s.Linked) (hid : id < s.builders.size)
    (h : (Declare.clone depth id).exec env s = (.ok c, t)) {n : Nat} (hn : n ∈ (t.footprint c).drafts) :
    ∃ m ∈ (s.footprint id).drafts, (t.drafts[n]?.getD {}).conditions = (s.drafts[m]?.getD {}).conditions := by
  have hcopied := Declare.copied_clone hs h
  have hdeclared : ∀ {k : Nat} {b : Builder}, t.builders[k]? = some b →
      t.drafts[b.draft]?.getD {} = t.declared k := fun hb => (declared_eq hb).symm
  have hheld : ∀ k, k < s.builders.size → (k = id ∨ ∃ j ∈ (s.declared id).joins.getD [], j.builder = some k) →
      ∃ m ∈ (s.footprint id).drafts, s.drafts[m]?.getD {} = s.declared k := by
    intro k hk howned
    have hb := Array.getElem?_eq_getElem hk
    exact ⟨_, ⟨id, .refl, k, _, howned, hb, rfl⟩, (declared_eq hb).symm⟩
  obtain ⟨m, hm, howns⟩ := hn
  obtain rfl | ⟨m', ⟨v, hv, rfl⟩, hm⟩ := Relation.ReflTransGen.cases_head_iff.1 hm
  · obtain ⟨k, b, rfl | ⟨j, hj, hjk⟩, hb, rfl⟩ := howns
    · obtain ⟨m, hmem, hsame⟩ := hheld id hid (.inl rfl)
      refine ⟨m, hmem, ?_⟩
      rw [hdeclared hb, hsame, hcopied.mirrors.read Draft.conditions fun _ _ => rfl,
        hcopied.keeping.declared_of_lt hs hid]
    · obtain ⟨j', hj', k', hk', hconditions⟩ := Declare.conditions_clone hs h j hj k hjk
      obtain ⟨m, hmem, hsame⟩ := hheld k' (hs.join_lt hid hj' hk') (.inr ⟨j', hj', hk'⟩)
      exact ⟨m, hmem, by rw [hdeclared hb, hsame, hconditions]⟩
  · rw [hcopied.mirrors.read (·.unions) fun _ _ => rfl, hcopied.keeping.declared_of_lt hs hid] at hv
    have hmember : n ∈ (t.footprint v.builder).drafts := ⟨m, hm, howns⟩
    rw [hcopied.keeping.footprint_eq hs (hs.union_lt hid hv)] at hmember
    obtain ⟨m', hm', howns'⟩ := hmember
    have hold : n ∈ (s.footprint id).drafts := ⟨m', .head ⟨v, hv, rfl⟩ hm', howns'⟩
    exact ⟨n, hold, by rw [hcopied.keeping.drafts n ((hs.closed_footprint hid).kept n hold)]⟩

namespace Session

/-! ### Builders and drafts that are added -/

/-- Some builders and drafts have been added, and nothing else has happened. -/
structure Added (s t : Session) : Prop where
  rest : t = { s with builders := t.builders, drafts := t.drafts }
  builders : ∀ k < s.builders.size, t.builders[k]? = s.builders[k]?
  drafts : ∀ n < s.drafts.size, t.drafts[n]? = s.drafts[n]?
  size : s.builders.size ≤ t.builders.size ∧ s.drafts.size ≤ t.drafts.size

instance : IsPreorder Session Added where
  refl _ := ⟨rfl, fun _ _ => rfl, fun _ _ => rfl, le_refl _, le_refl _⟩
  trans s t u h h' := by
    refine ⟨?_, fun k hk => ?_, fun n hn => ?_, h.size.1.trans h'.size.1, h.size.2.trans h'.size.2⟩
    · calc u = { t with builders := u.builders, drafts := u.drafts } := h'.rest
        _ = { s with builders := u.builders, drafts := u.drafts } := by rw [h.rest]
    · rw [h'.builders k (hk.trans_le h.size.1), h.builders k hk]
    · rw [h'.drafts n (hn.trans_le h.size.2), h.drafts n hn]

instance : IsPreorder Session Grown where
  refl := .refl
  trans _ _ _ h h' := {
    driver := h'.driver.trans h.driver
    journal := h'.journal.trans h.journal
    hooks := h'.hooks.trans h.hooks
    scopes := h'.scopes.trans h.scopes
    builders := fun k hk => (h'.builders k (hk.trans_le h.size.1)).trans (h.builders k hk)
    drafts := fun n hn => (h'.drafts n (hn.trans_le h.size.2)).trans (h.drafts n hn)
    size := ⟨h.size.1.trans h'.size.1, h.size.2.trans h'.size.2⟩ }

theorem Added.grown (h : Added s t) : s.Grown t where
  driver := by rw [h.rest]
  journal := by rw [h.rest]
  hooks := by rw [h.rest]
  scopes := by rw [h.rest]
  builders := h.builders
  drafts := h.drafts
  size := h.size

theorem Added.keeping (h : Added s t) : Keeping s t where
  drafts := h.drafts
  builders k b hb := ⟨b, (h.builders k (Array.getElem?_eq_some_iff.1 hb).1).trans hb, rfl⟩
  size := h.size.2
  engine := by rw [h.rest]
  lead := by rw [h.rest]
  overwriting := by rw [h.rest]
  scripts n script hn := by
    rw [h.rest]
    exact hn

theorem Added.clone (depth id : Nat) : Keeps Added env (Declare.clone depth id) := by
  refine Keeps.modular.clone .throw .builder .draft (fun d s => ?_) (fun b s => ?_) depth id
  · refine ⟨rfl, fun _ _ => rfl, fun n hn => ?_, le_refl _, ?_⟩
    · exact Array.getElem?_push.trans (if_neg hn.ne)
    · exact (Array.size_push _).symm ▸ Nat.le_succ _
  · refine ⟨rfl, fun k hk => ?_, fun _ _ => rfl, ?_, le_refl _⟩
    · exact Array.getElem?_push.trans (if_neg hk.ne)
    · exact (Array.size_push _).symm ▸ Nat.le_succ _

/-- A draft that has been added may change. -/
theorem Added.capped (h : Added s t) {n : Nat} (hn : s.drafts.size ≤ n) : Added s (t.capped n) := by
  have hsize : (t.capped n).drafts.size = t.drafts.size := Array.size_modify
  refine ⟨?_, h.builders, fun m hm => ?_, h.size.1, hsize ▸ h.size.2⟩
  · conv_lhs => rw [h.rest]
    rfl
  · unfold Session.capped
    rw [Array.getElem?_modify, if_neg (hm.trans_le hn).ne', h.drafts m hm]

/-! ### Groups that keep quiet -/

/-- In the states of a kind, each group that the builder is made of comes to the same, adds builders and drafts at most,
and stays among the states. The session is one of them, and adding builders and drafts or executing statements does not
lead out of them. -/
structure Placid (env : Surroundings) (id : Nat) (s : Session) (K : Session → Prop) : Prop where
  start : K s
  added : ∀ t u, K t → Added t u → K u
  passed : ∀ t driver journal last, K t → driver.engine = t.driver.engine →
    K { t with driver, journal, lastStatement := last }
  groups : ∀ n ∈ (s.footprint id).drafts, ∀ c ∈ (s.drafts[n]?.getD {}).conditions, ∀ script, c.key = .group script →
    ∀ depth, ∃ outcome, ∀ t, K t →
      ∃ u, (Resolve.members depth script).exec env t = (outcome, u) ∧ t.Grown u ∧ K u

namespace Placid

variable (h : Placid env id s K)

include h

/-- What has the conditions of the builder is steady, too. -/
theorem steady {p : Footprint} (hp : ∀ n ∈ p.drafts, ∃ m ∈ (s.footprint id).drafts,
    (t.drafts[n]?.getD {}).conditions = (s.drafts[m]?.getD {}).conditions) {P : Session → Prop}
    (hK : ∀ u, P u → K u) (hP : ∀ u v, P u → u.Grown v → K v → P v) : p.Steady env P t := by
  intro n hn c hc script hkey depth
  obtain ⟨m, hm, hconditions⟩ := hp n hn
  obtain ⟨outcome, houtcome⟩ := h.groups m hm c (hconditions ▸ hc) script hkey depth
  refine ⟨outcome, fun u hu => ?_⟩
  obtain ⟨v, hexec, hgrown, hv⟩ := houtcome u (hK u hu)
  exact ⟨v, hexec, hP u v hu hgrown hv⟩

variable (hs : s.Linked) (hid : id < s.builders.size)

include hs hid

/-- Whatever depends on the footprint alone comes to the same wherever that is sustained, and adds builders and drafts
at most. -/
theorem settled {α : Type} {op : Act α} (hop : ∀ P : Session → Prop, (∀ u, P u → (s.footprint id).Sustains s u) →
      (s.footprint id).Steady env P s → Alike P P env op op)
    (ht : K t) (hst : (s.footprint id).Sustains s t) :
    Settled (fun u => t.Grown u ∧ K u) env op (op.exec env s).1 := by
  have hkept := (hs.closed_footprint hid).kept
  have hgrown : ∀ {u v}, (s.footprint id).Sustains s u → u.Grown v → (s.footprint id).Sustains s v :=
    fun hu huv => trans_of _ hu (sustains_grown (hu.kept hkept) huv)
  have hsettled : ∀ P : Session → Prop, (∀ u, P u → (s.footprint id).Sustains s u) → (∀ u, P u → K u) →
      (∀ u v, P u → u.Grown v → K v → P v) → ∃ outcome, Settled P env op outcome := by
    intro P hsustains hK hP
    obtain ⟨outcome, hsettled, -⟩ := hop P hsustains (h.steady (fun n hn => ⟨n, hn, rfl⟩) hK hP)
    exact ⟨outcome, hsettled⟩
  obtain ⟨outcome, hall⟩ := hsettled (fun u => (s.footprint id).Sustains s u ∧ K u) (fun _ hu => hu.1)
    (fun _ hu => hu.2) fun _ _ hu huv hv => ⟨hgrown hu.1 huv, hv⟩
  obtain ⟨outcome', hgrows⟩ := hsettled (fun u => t.Grown u ∧ K u) (fun _ hu => hgrown hst hu.1) (fun _ hu => hu.2)
    fun _ _ hu huv hv => ⟨trans_of Session.Grown hu.1 huv, hv⟩
  exact hall.transfer hgrows ⟨.refl _ _, h.start⟩ ⟨hst, ht⟩ ⟨.refl t, ht⟩

theorem settled_compile (ht : K t) (hst : (s.footprint id).Sustains s t) (request : StatementRequest) :
    Settled (fun u => t.Grown u ∧ K u) env (compile id request) ((compile id request).exec env s).1 :=
  h.settled hs hid (fun _ hsustains hsteady => Resolve.alike_compile hsustains hsteady (hs.closed_footprint hid)
    (s.mem_footprint id) (s.mem_footprint id) (.refl _ _) request) ht hst

theorem settled_select (ht : K t) (hst : (s.footprint id).Sustains s t) (depth : Nat) :
    Settled (fun u => t.Grown u ∧ K u) env (Resolve.select depth id) ((Resolve.select depth id).exec env s).1 :=
  h.settled hs hid (fun _ hsustains hsteady => Resolve.alike_select ⟨hsustains, hsustains, rfl, hsteady.concordant⟩
    (hs.closed_footprint hid) depth (s.mem_footprint id) (s.mem_footprint id) (.refl _ _)) ht hst

/-- A copy with one row as its limit compiles to the statement of the builder with that limit. -/
theorem settled_probe {depth : Nat} {bc : Builder} {q : Query}
    (hclone : (Declare.clone depth id).exec env s = (.ok c, t)) (hbc : t.builders[c]? = some bc)
    (hq : ((compile id .select).exec env s).1 = .ok q) : ∃ tree probe,
      ((Resolve.select env.depth id).exec env s).1 = .ok tree ∧ tree.render (.ofEngine s.driver.engine) = .ok q ∧
      tree.capped.render (.ofEngine s.driver.engine) = .ok probe ∧
      Settled (fun u => (t.capped bc.draft).Grown u ∧ K u) env (compile c .select) (.ok probe) := by
  have hcopied := Declare.copied_clone hs hclone
  have hadded := (Added.clone depth id).of_exec hclone
  have hfresh : s.drafts.size ≤ bc.draft := by
    obtain ⟨b, hb, hsize⟩ := hcopied.fresh
    exact (Option.some.inj (hbc.symm.trans hb)) ▸ hsize
  let w : Session := t.capped bc.draft
  have hw : Added s w := hadded.capped hfresh
  have hlinked : w.Linked := hcopied.linked.capped _
  have hidw : id < w.builders.size := hid.trans_le hw.size.1
  have hKw : K w := h.added s w h.start hw
  have hsustains : (s.footprint id).Sustains s w := sustains_grown (hs.closed_footprint hid).kept hw.grown
  have hfoot : w.footprint id = s.footprint id :=
    (footprint_capped t _ id).trans (hcopied.keeping.footprint_eq hs hid)
  have hfootc : w.footprint c = t.footprint c := footprint_capped t _ c
  let p : Footprint := w.footprint id ∪ w.footprint c
  have hclosed : p.Closed w := (hlinked.closed_footprint hidw).union (hlinked.closed_footprint hcopied.fresh.lt)
  have hconditions : ∀ n ∈ p.drafts, ∃ m ∈ (s.footprint id).drafts,
      (w.drafts[n]?.getD {}).conditions = (s.drafts[m]?.getD {}).conditions := by
    rintro n (hn | hn)
    · rw [hfoot] at hn
      exact ⟨n, hn, by rw [hw.drafts n ((hs.closed_footprint hid).kept n hn)]⟩
    · rw [hfootc] at hn
      obtain ⟨m, hm, hsame⟩ := conditions_footprint_copy hs hid hclone hn
      exact ⟨m, hm, (read_capped t bc.draft (f := Draft.conditions) (fun _ => rfl) n).trans hsame⟩
  have hsteady : p.Steady env (fun u => w.Grown u ∧ K u) w := h.steady hconditions (fun _ hu => hu.2)
    fun _ _ hu huv hv => ⟨trans_of Session.Grown hu.1 huv, hv⟩
  have hleft : ∀ u, w.Grown u ∧ K u → p.Sustains w u := fun u hu => sustains_grown hclosed.kept hu.1
  have hmirrors : Draft.Mirrors w (w.declared id) (t.declared c) := by
    have hsame : w.declared id = t.declared id := by
      rw [hw.keeping.declared_of_lt hs hid, hcopied.keeping.declared_of_lt hs hid]
    rw [hsame]
    exact hcopied.mirrors.capped _
  have hdeclared : w.declared c = (t.declared c).capped :=
    declared_capped_self hbc (hcopied.linked.draft c bc hbc)
  have hqw : ((compile id .select).exec env w).1 = .ok q := by
    obtain ⟨u, hu, -⟩ := h.settled_compile hs hid hKw hsustains .select w ⟨.refl w, hKw⟩
    rw [hu, hq]
  obtain ⟨tree, probe, htree, hrender, hprobe, hcompile⟩ := Resolve.settled_compile_capped
    ⟨hleft, hleft, rfl, hsteady.concordant⟩ hclosed (.inl (w.mem_footprint id)) (.inr (w.mem_footprint c)) hdeclared
    hmirrors ⟨.refl w, hKw⟩ hqw
  have hengine : w.driver.engine = s.driver.engine := congrArg Driver.engine hw.grown.driver
  rw [hengine] at hrender hprobe
  obtain ⟨u, hu, -⟩ := h.settled_select hs hid hKw hsustains env.depth w ⟨.refl w, hKw⟩
  rw [hu] at htree
  exact ⟨tree, probe, htree, hrender, hprobe, hcompile⟩

end Placid

end Session

end SqlBuilder
