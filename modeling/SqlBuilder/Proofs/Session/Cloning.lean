import SqlBuilder.Proofs.Session.Linking
import SqlBuilder.Proofs.Session.Mirroring
import SqlBuilder.Proofs.Session.Mutating

/-!
Copies of builders. A copy declares what the first builder does, with drafts of its own for itself and for its joins,
while it is united with the same builders. So both compile to the same, and calls that change the one leave the
footprint of the other alone.
-/

namespace SqlBuilder

open Act Footprint

variable {env : Surroundings} {s t u : Session} {id c k : Nat}

/-! ### What is there stays -/

namespace Footprint.Keeping

theorem lt (h : Keeping s t) (hk : k < s.builders.size) : k < t.builders.size := by
  obtain ⟨b, hb, -⟩ := h.builders k _ (Array.getElem?_eq_getElem hk)
  exact (Array.getElem?_eq_some_iff.1 hb).1

variable (h : Keeping s t) (hlinked : s.Linked)

include h hlinked

theorem declared_of_lt (hk : k < s.builders.size) : t.declared k = s.declared k :=
  h.declared (Array.getElem?_eq_getElem hk) (hlinked.draft _ _ (Array.getElem?_eq_getElem hk))

theorem outline {j : DraftJoin} (hj : ∀ k, j.builder = some k → k < s.builders.size) : t.outline j = s.outline j := by
  unfold Session.outline
  cases hk : j.builder with
  | none => rfl
  | some k => rw [Option.map_some, Option.map_some, h.declared_of_lt hlinked (hj k hk)]

theorem unites_iff (hid : id < s.builders.size) {m : Nat} : t.Unites id m ↔ s.Unites id m := by
  constructor
  · intro hm
    induction hm with
    | refl => exact .refl
    | tail _ hu ih =>
        rw [h.declared_of_lt hlinked (hlinked.unites_lt hid ih)] at hu
        exact ih.tail hu
  · intro hm
    induction hm with
    | refl => exact .refl
    | tail hm hu ih =>
        rw [← h.declared_of_lt hlinked (hlinked.unites_lt hid hm)] at hu
        exact ih.tail hu

theorem owns_iff (hid : id < s.builders.size) {n : Nat} : t.Owns id n ↔ s.Owns id n := by
  unfold Session.Owns
  rw [h.declared_of_lt hlinked hid]
  refine exists_congr fun k => ?_
  constructor
  · rintro ⟨b, hk, hb, rfl⟩
    have hlt : k < s.builders.size := by
      obtain rfl | ⟨j, hj, hjk⟩ := hk
      · exact hid
      · exact hlinked.join_lt hid hj hjk
    obtain ⟨b', hb', hdraft⟩ := h.builders k _ (Array.getElem?_eq_getElem hlt)
    obtain rfl := Option.some.inj (hb.symm.trans hb')
    exact ⟨_, hk, Array.getElem?_eq_getElem hlt, hdraft.symm⟩
  · rintro ⟨b, hk, hb, rfl⟩
    obtain ⟨b', hb', hdraft⟩ := h.builders k b hb
    exact ⟨b', hk, hb', hdraft⟩

theorem footprint_eq (hid : id < s.builders.size) : t.footprint id = s.footprint id := by
  have hbuilders : ∀ m, t.Unites id m ↔ s.Unites id m := fun m => h.unites_iff hlinked hid
  have hdrafts : ∀ n, (∃ m, t.Unites id m ∧ t.Owns m n) ↔ ∃ m, s.Unites id m ∧ s.Owns m n := by
    refine fun n => exists_congr fun m => ?_
    rw [hbuilders]
    exact and_congr_right fun hm => h.owns_iff hlinked (hlinked.unites_lt hid hm)
  exact congrArg₂ Footprint.mk (Set.ext hbuilders) (Set.ext hdrafts)

end Footprint.Keeping

namespace Session

/-- The builder has a draft that the first session has not. -/
def Fresh (s t : Session) (k : Nat) : Prop := ∃ b : Builder, t.builders[k]? = some b ∧ s.drafts.size ≤ b.draft

theorem Fresh.lt (h : s.Fresh t k) : k < t.builders.size := by
  obtain ⟨b, hb, -⟩ := h
  exact (Array.getElem?_eq_some_iff.1 hb).1

theorem Fresh.keeping (h : s.Fresh t k) (ht : Keeping t u) : s.Fresh u k := by
  obtain ⟨b, hb, hsize⟩ := h
  obtain ⟨b', hb', hdraft⟩ := ht.builders k b hb
  exact ⟨b', hb', hdraft ▸ hsize⟩

theorem Fresh.of_keeping (hs : Keeping s t) (h : t.Fresh u k) : s.Fresh u k := by
  obtain ⟨b, hb, hsize⟩ := h
  exact ⟨b, hb, hs.size.trans hsize⟩

/-- The second session has a copy of the builder beside what there was before. -/
structure Copied (s t : Session) (id c : Nat) : Prop where
  keeping : Keeping s t
  linked : t.Linked
  fresh : s.Fresh t c
  mirrors : Draft.Mirrors t (t.declared id) (t.declared c)
  joins : ∀ j ∈ (t.declared c).joins.getD [], ∀ k, j.builder = some k → s.Fresh t k

/-- The joins of the builder are nested less deep than that. -/
def Nests (s : Session) : Nat → Nat → Prop
  | 0, _ => False
  | depth + 1, id => id < s.builders.size ∧
    ∀ j ∈ (s.declared id).joins.getD [], ∀ k, j.builder = some k → s.Nests depth k

theorem Nests.lt {depth : Nat} (h : s.Nests depth id) : id < s.builders.size := by
  cases depth with
  | zero => exact h.elim
  | succ depth => exact h.1

theorem Nests.keeping {depth : Nat} (h : s.Nests depth id) (hs : s.Linked) (hst : Keeping s t) : t.Nests depth id := by
  induction depth generalizing id with
  | zero => exact h
  | succ depth ih =>
      refine ⟨hst.lt h.lt, fun j hj k hk => ?_⟩
      rw [hst.declared_of_lt hs h.lt] at hj
      exact ih (h.2 j hj k hk)

end Session

/-! ### Copying -/

namespace Declare

section Joins

variable {depth : Nat} (ih : ∀ {s t : Session} {id c : Nat}, s.Linked →
  (clone depth id).exec env s = (.ok c, t) → s.Copied t id c)

include ih

theorem copied_cloneJoin (hs : s.Linked) {j j' : DraftJoin} (hj : ∀ k, j.builder = some k → k < s.builders.size)
    (h : (cloneJoin depth j).exec env s = (.ok j', t)) :
    Keeping s t ∧ t.Linked ∧ t.outline j' = t.outline j ∧ ∀ k, j'.builder = some k → s.Fresh t k := by
  obtain ⟨kind, table, builder⟩ := j
  cases builder with
  | none =>
      cases h
      exact ⟨.of_eq rfl rfl rfl rfl rfl rfl, hs, rfl, fun k hk => by cases hk⟩
  | some k =>
      obtain ⟨builder, u, hclone, h⟩ := exec_bind_eq_ok h
      obtain ⟨k', v, hclone, hbuilder⟩ := exec_bind_eq_ok hclone
      cases hbuilder
      cases h
      have hcopied := ih hs hclone
      refine ⟨hcopied.keeping, hcopied.linked, ?_, fun k hk => ?_⟩
      · have hcriteria := hcopied.mirrors.read (·.criteria) fun _ _ => rfl
        exact congrArg (fun criteria => (kind, table, some criteria)) hcriteria
      · cases hk
        exact hcopied.fresh

theorem copied_cloneJoins (hs : s.Linked) {js js' : List DraftJoin}
    (hjs : ∀ j ∈ js, ∀ k, j.builder = some k → k < s.builders.size)
    (h : (js.mapM (cloneJoin depth)).exec env s = (.ok js', t)) :
    Keeping s t ∧ t.Linked ∧ js'.map t.outline = js.map t.outline ∧
      ∀ j ∈ js', ∀ k, j.builder = some k → s.Fresh t k := by
  induction js generalizing s js' with
  | nil =>
      cases h
      exact ⟨.of_eq rfl rfl rfl rfl rfl rfl, hs, rfl, by simp⟩
  | cons j js ihjs =>
      rw [List.mapM_cons] at h
      obtain ⟨j', u, hj, h⟩ := exec_bind_eq_ok h
      obtain ⟨js', v, hrest, h⟩ := exec_bind_eq_ok h
      cases h
      have hfirst := hjs j List.mem_cons_self
      obtain ⟨hsu, hu, houtline, hfresh⟩ := copied_cloneJoin ih hs hfirst hj
      obtain ⟨hut, ht, houtlines, hfreshs⟩ := ihjs hu (fun j hj k hk => hsu.lt (hjs j (List.mem_cons_of_mem _ hj) k hk))
        hrest
      refine ⟨hsu.trans hut, ht, ?_, List.forall_mem_cons.2 ⟨fun k hk => (hfresh k hk).keeping hut, ?_⟩⟩
      · rw [List.map_cons, List.map_cons, houtlines, hut.outline hu fun k hk => (hfresh k hk).lt,
          hut.outline hu fun k hk => hsu.lt (hfirst k hk), houtline]
      · exact fun j hj k hk => (hfreshs j hj k hk).of_keeping hsu

end Joins

/-- With copies of the joins, a draft that declares the same makes a copy. -/
theorem copied_push (hs : s.Linked) (hid : id < s.builders.size) (hsu : Keeping s u) (hu : u.Linked)
    {joins : Option (List DraftJoin)}
    (houtlines : (joins.getD []).map u.outline = ((s.declared id).joins.getD []).map u.outline)
    (hfresh : ∀ j ∈ joins.getD [], ∀ k, j.builder = some k → s.Fresh u k) {b : Builder}
    (hb : b.draft = u.drafts.size) : s.Copied
      { u with drafts := u.drafts.push { s.declared id with joins }, builders := u.builders.push b } id
      u.builders.size := by
  let d : Draft := { s.declared id with joins }
  let t : Session := { u with drafts := u.drafts.push d, builders := u.builders.push b }
  have hut : Keeping u t := (Keeping.pushDraft u d).trans (.pushBuilder _ b)
  have hc : t.builders[u.builders.size]? = some b := Array.getElem?_push_size
  have hdeclared : t.declared u.builders.size = d := by
    rw [Session.declared_eq hc, hb]
    change (u.drafts.push d)[u.drafts.size]?.getD {} = d
    rw [Array.getElem?_push_size]
    rfl
  have hold : ∀ j ∈ (s.declared id).joins.getD [], t.outline j = u.outline j :=
    fun j hj => hut.outline hu fun k hk => hsu.lt (hs.join_lt hid hj hk)
  have hnew : ∀ j ∈ joins.getD [], t.outline j = u.outline j :=
    fun j hj => hut.outline hu fun k hk => (hfresh j hj k hk).lt
  refine ⟨hsu.trans hut, ?_, ⟨b, hc, hb ▸ hsu.size⟩, ?_, fun j hj k hk => ?_⟩
  · exact hu.of_push hb (fun j hj k hk => (hfresh j hj k hk).lt) fun v hv => hsu.lt (hs.union_lt hid hv)
  · change Draft.Mirrors t (t.declared id) (t.declared u.builders.size)
    rw [(hsu.trans hut).declared_of_lt hs hid, hdeclared]
    exact ⟨rfl, (List.map_congr_left hnew).trans (houtlines.trans (List.map_congr_left hold).symm)⟩
  · change j ∈ (t.declared u.builders.size).joins.getD [] at hj
    rw [hdeclared] at hj
    exact (hfresh j hj k hk).keeping hut

/-- A clone is a copy. -/
theorem copied_clone (hs : s.Linked) {depth : Nat} (h : (clone depth id).exec env s = (.ok c, t)) :
    s.Copied t id c := by
  induction depth generalizing s t id c with
  | zero => cases h
  | succ depth ih =>
      rw [clone_succ] at h
      obtain ⟨b, u, hbuilder, h⟩ := exec_bind_eq_ok h
      obtain ⟨hb, hsame⟩ := exec_builder_eq_ok hbuilder
      rw [hsame, exec_bind_ok (exec_draft hb), ← Session.declared_eq hb] at h
      obtain ⟨joins, v, hjoins, h⟩ := exec_bind_eq_ok h
      have hid : id < s.builders.size := (Array.getElem?_eq_some_iff.1 hb).1
      have hjs : ∀ j ∈ (s.declared id).joins.getD [], ∀ k, j.builder = some k → k < s.builders.size :=
        fun j hj k hk => hs.join_lt hid hj hk
      obtain ⟨hsv, hv, houtlines, hfresh⟩ : Keeping s v ∧ v.Linked ∧
          (joins.getD []).map v.outline = ((s.declared id).joins.getD []).map v.outline ∧
          ∀ j ∈ joins.getD [], ∀ k, j.builder = some k → s.Fresh v k := by
        cases hdeclared : (s.declared id).joins with
        | none =>
            rw [hdeclared] at hjoins
            cases hjoins
            exact ⟨.of_eq rfl rfl rfl rfl rfl rfl, hs, rfl, by simp⟩
        | some js =>
            rw [hdeclared] at hjoins hjs
            obtain ⟨js', w, hmap, hpure⟩ := exec_bind_eq_ok hjoins
            cases hpure
            exact copied_cloneJoins (fun hs h => ih hs h) hs hjs hmap
      cases h
      exact copied_push hs hid hsv hv houtlines hfresh rfl

end Declare

/-! Copies that come about. -/

namespace Declare

section Joins

variable {depth : Nat} (ih : ∀ {s : Session} {id : Nat}, s.Linked → s.Nests depth id →
  ∃ c t, (clone depth id).exec env s = (.ok c, t))

include ih

theorem exec_cloneJoin_of_nests (hs : s.Linked) {j : DraftJoin} (hj : ∀ k, j.builder = some k → s.Nests depth k) :
    ∃ j' t, (cloneJoin depth j).exec env s = (.ok j', t) := by
  obtain ⟨kind, table, builder⟩ := j
  cases builder with
  | none => exact ⟨_, _, rfl⟩
  | some k =>
      obtain ⟨c, t, hclone⟩ := ih hs (hj k rfl)
      have hmapped : (Option.mapM (clone depth) (some k)).exec env s = (.ok (some c), t) := by
        rw [Option.mapM_some, map_eq_pure_bind, exec_bind_ok hclone, exec_pure]
      refine ⟨⟨kind, table, some c⟩, t, ?_⟩
      unfold cloneJoin
      rw [exec_bind_ok hmapped, exec_pure]

theorem exec_cloneJoins_of_nests (hs : s.Linked) {js : List DraftJoin}
    (hjs : ∀ j ∈ js, ∀ k, j.builder = some k → s.Nests depth k) :
    ∃ js' t, (js.mapM (cloneJoin depth)).exec env s = (.ok js', t) := by
  induction js generalizing s with
  | nil => exact ⟨[], s, rfl⟩
  | cons j js ihjs =>
      obtain ⟨hj, hrest⟩ := List.forall_mem_cons.1 hjs
      obtain ⟨j', t, hjoin⟩ := exec_cloneJoin_of_nests ih hs hj
      -- the copy of one join leaves the others as they are
      obtain ⟨hst, ht, -⟩ := copied_cloneJoin (fun hs h => copied_clone hs h) hs (fun k hk => (hj k hk).lt) hjoin
      obtain ⟨js', u, hmap⟩ := ihjs ht fun j hj k hk => (hrest j hj k hk).keeping hs hst
      refine ⟨j' :: js', u, ?_⟩
      rw [List.mapM_cons, exec_bind_ok hjoin, exec_bind_ok hmap, exec_pure]

end Joins

/-- A builder can be cloned if its joins are not nested too deep. -/
theorem exec_clone_of_nests {depth : Nat} (hs : s.Linked) (h : s.Nests depth id) :
    ∃ c t, (clone depth id).exec env s = (.ok c, t) := by
  induction depth generalizing s id with
  | zero => exact h.elim
  | succ depth ih =>
      obtain ⟨b, hb⟩ : ∃ b, s.builders[id]? = some b := ⟨_, Array.getElem?_eq_getElem h.lt⟩
      obtain ⟨joins, t, hjoins⟩ : ∃ joins t, Act.exec ((s.declared id).joins.mapM fun joins =>
          joins.mapM (cloneJoin depth)) env s = (.ok joins, t) := by
        have hnested := h.2
        cases hdeclared : (s.declared id).joins with
        | none => exact ⟨none, s, rfl⟩
        | some js =>
            rw [hdeclared] at hnested
            obtain ⟨js', t, hmap⟩ : ∃ js' t, (js.mapM (cloneJoin depth)).exec env s = (.ok js', t) :=
              exec_cloneJoins_of_nests ih hs hnested
            refine ⟨some js', t, ?_⟩
            rw [Option.mapM_some, map_eq_pure_bind, exec_bind_ok hmap, exec_pure]
      rw [clone_succ, exec_bind_ok (exec_builder_of_some hb), exec_bind_ok (exec_draft hb), ← Session.declared_eq hb,
        exec_bind_ok hjoins]
      exact ⟨_, _, rfl⟩

end Declare

/-! ### Transactions -/

namespace Session

theorem declared_redirected_other {other : Nat} (h : k ≠ other) (n : Nat) :
    (s.redirected k n).declared other = s.declared other := by
  unfold declared
  rw [redirected_other h]
  rfl

theorem outline_redirected {j : DraftJoin} (h : j.builder ≠ some k) (n : Nat) :
    (s.redirected k n).outline j = s.outline j := by
  unfold outline
  cases hj : j.builder with
  | none => rfl
  | some other =>
      have hne : k ≠ other := fun heq => h (heq ▸ hj)
      rw [Option.map_some, Option.map_some, declared_redirected_other hne]

end Session

theorem Footprint.Keeping.redirected (h : Keeping s t) (hk : s.builders.size ≤ k) (n : Nat) :
    Keeping s (t.redirected k n) where
  drafts := h.drafts
  builders id b hb := by
    have hlt := (Array.getElem?_eq_some_iff.1 hb).1
    rw [Session.redirected_other (hlt.trans_le hk).ne']
    exact h.builders id b hb
  size := h.size
  engine := h.engine
  lead := h.lead
  overwriting := h.overwriting
  scripts := h.scripts

/-- A new builder that uses the draft of a copy is a copy, too. -/
theorem Session.Copied.redirected {v : Session} {b : Builder} (h : u.Copied v id c) (hs : s.Linked) (hu : u.Linked)
    (hsu : Keeping s u) (hid : id < s.builders.size) (hk : s.builders.size ≤ k) (hku : k < u.builders.size)
    (hb : v.builders[c]? = some b) : s.Copied (v.redirected k b.draft) id k := by
  have hsv : Keeping s v := hsu.trans h.keeping
  have hne : id ≠ k := (hid.trans_le hk).ne
  obtain ⟨b', hb', hdraft⟩ := h.keeping.builders k _ (Array.getElem?_eq_getElem hku)
  have hsize : b'.draft < u.drafts.size := hdraft ▸ hu.draft k _ (Array.getElem?_eq_getElem hku)
  have hnewest : u.drafts.size ≤ b.draft := by
    obtain ⟨b'', hb'', hfresh⟩ := h.fresh
    exact (Option.some.inj (hb.symm.trans hb'')) ▸ hfresh
  -- the builders of the joins have newer drafts than this one
  have hother : ∀ other, u.Fresh v other → k ≠ other := by
    rintro other ⟨b'', hb'', hfresh⟩ rfl
    obtain rfl := Option.some.inj (hb'.symm.trans hb'')
    exact absurd hsize hfresh.not_gt
  have hdeclared : (v.redirected k b.draft).declared k = v.declared c := by
    rw [declared_eq (redirected_same hb' _), declared_eq hb]
    rfl
  refine ⟨hsv.redirected hk _, h.linked.redirected k (h.linked.draft c b hb),
    ⟨_, redirected_same hb' _, hsu.size.trans hnewest⟩, ?_, fun j hj other hjother => ?_⟩
  · have hcopy : ∀ j ∈ (v.declared c).joins.getD [], (v.redirected k b.draft).outline j = v.outline j :=
      fun j hj => outline_redirected (fun hjk => hother k (h.joins j hj k hjk) rfl) _
    have hold : ∀ j ∈ (v.declared id).joins.getD [], (v.redirected k b.draft).outline j = v.outline j := by
      intro j hj
      rw [hsv.declared_of_lt hs hid] at hj
      exact outline_redirected (fun hjk => ((hs.join_lt hid hj hjk).trans_le hk).ne rfl) _
    rw [hdeclared, declared_redirected_other hne.symm]
    exact ⟨h.mirrors.same,
      (List.map_congr_left hcopy).trans (h.mirrors.joins.trans (List.map_congr_left hold).symm)⟩
  · rw [hdeclared] at hj
    have hfresh := h.joins j hj other hjother
    have hne := hother other hfresh
    obtain ⟨b'', hb'', hsize''⟩ := hfresh
    exact ⟨b'', (redirected_other hne _).trans hb'', hsu.size.trans hsize''⟩

namespace Transaction

/-- The builder of a transaction is a copy of the one that it starts from. -/
theorem copied_builderFor (hs : s.Linked) (hid : id < s.builders.size) {scope : Nat}
    (h : (builderFor id scope).exec env s = (.ok c, t)) : s.Copied t id c := by
  let b : Builder :=
    { role := .transaction scope, draft := s.drafts.size, lead := s.lead, overwriting := .bool s.overwriting }
  let u : Session := { s with drafts := s.drafts.push {}, builders := s.builders.push b }
  have hnew : (Act.newBuilder (.transaction scope)).exec env s = (.ok s.builders.size, u) := rfl
  have hsu : Keeping s u := (Keeping.pushDraft s {}).trans (.pushBuilder _ b)
  have hu : u.Linked := hs.of_push rfl (by simp) (by simp)
  unfold builderFor at h
  rw [exec_bind_ok hnew, exec_bind, exec_read] at h
  obtain ⟨copy, v, hclone, h⟩ := exec_bind_eq_ok h
  obtain ⟨b', w, hbuilder, h⟩ := exec_bind_eq_ok h
  obtain ⟨hb', hsame⟩ := exec_builder_eq_ok hbuilder
  cases h
  rw [hsame]
  refine (Declare.copied_clone hu hclone).redirected hs hu hsu hid le_rfl ?_ hb'
  exact (Array.size_push _).symm ▸ Nat.lt_succ_self _

/-- A transaction can be started from a builder that can be cloned. -/
theorem exec_builderFor_of_nests (hs : s.Linked) (h : s.Nests env.depth id) (scope : Nat) :
    ∃ builder t, (builderFor id scope).exec env s = (.ok builder, t) := by
  let b : Builder :=
    { role := .transaction scope, draft := s.drafts.size, lead := s.lead, overwriting := .bool s.overwriting }
  let u : Session := { s with drafts := s.drafts.push {}, builders := s.builders.push b }
  have hnew : (Act.newBuilder (.transaction scope)).exec env s = (.ok s.builders.size, u) := rfl
  have hsu : Keeping s u := (Keeping.pushDraft s {}).trans (.pushBuilder _ b)
  have hu : u.Linked := hs.of_push rfl (by simp) (by simp)
  obtain ⟨c, v, hclone⟩ : ∃ c v, (Declare.clone env.depth id).exec env u = (.ok c, v) :=
    Declare.exec_clone_of_nests hu (h.keeping hs hsu)
  obtain ⟨copy, hcopy, -⟩ := (Declare.copied_clone hu hclone).fresh
  unfold builderFor
  rw [exec_bind_ok hnew, exec_bind, exec_read]
  dsimp only
  rw [exec_bind_ok hclone, exec_bind_ok (exec_builder_of_some hcopy)]
  exact ⟨_, _, rfl⟩

end Transaction

end SqlBuilder
