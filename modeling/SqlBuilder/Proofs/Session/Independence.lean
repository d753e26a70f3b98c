import SqlBuilder.Proofs.Session.Cloning
import SqlBuilder.Proofs.Session.Places

/-!
Builders that change independently of each other. A clone compiles to the same as the builder that it was made of, and
so does the builder of a transaction. From then on calls that change what the one declares do not change what the
other one compiles to.
-/

namespace SqlBuilder

open Act Footprint

variable {env : Surroundings} {s t u : Session} {id c : Nat}

namespace Session

/-- In all states that have the footprints of the two builders in common, both compile to the same, as long as each
of their groups comes to the same whenever it runs. -/
def Agree (env : Surroundings) (t : Session) (id id' : Nat) : Prop :=
  ∀ P : Session → Prop, (∀ u, P u → (t.footprint id ∪ t.footprint id').Spares t u) →
    (t.footprint id ∪ t.footprint id').Steady env P t → ∀ u v, P u → P v → ∀ request,
      ((compile id' request).exec env v).1 = ((compile id request).exec env u).1

/-- The footprint of the builder is as before, and the builder compiles to the same as before, as long as each of its
groups comes to the same whenever it runs. -/
structure Unaffected (env : Surroundings) (id : Nat) (t u : Session) : Prop where
  spares : (t.footprint id).Spares t u
  compile : ∀ P : Session → Prop, (∀ v, P v → (t.footprint id).Spares t v) → (t.footprint id).Steady env P t →
    P t → P u → ∀ request, ((compile id request).exec env u).1 = ((compile id request).exec env t).1

/-- The footprint is all that a builder depends on. -/
theorem Linked.unaffected (ht : t.Linked) (hid : id < t.builders.size) (h : (t.footprint id).Spares t u) :
    Unaffected env id t u where
  spares := h
  compile _ hP hsteady hPt hPu request :=
    ht.outcome_compile hid (fun v hv => (hP v hv).sustains) hsteady hPt hPu request

/-- Without groups there is nothing else that it could depend on. -/
theorem Unaffected.compile_of_groupless (h : Unaffected env id t u) (hgroups : t.Groupless id)
    (request : StatementRequest) :
    ((SqlBuilder.compile id request).exec env u).1 = ((SqlBuilder.compile id request).exec env t).1 :=
  h.compile ((t.footprint id).Spares t) (fun _ hv => hv) hgroups.steady (.refl _ _) h.spares request

namespace Copied

variable (h : s.Copied t id c) (hid : id < s.builders.size)

include h hid

/-- A copy and its original mirror each other. -/
theorem agree : Agree env t id c := by
  intro P hP hsteady u v hu hv request
  have hclosed := (h.linked.closed_footprint (h.keeping.lt hid)).union (h.linked.closed_footprint h.fresh.lt)
  have hsustains : ∀ u, P u → (t.footprint id ∪ t.footprint c).Sustains t u := fun u hu => (hP u hu).sustains
  exact (Resolve.alike_compile hsustains hsteady hclosed (.inl (t.mem_footprint id)) (.inr (t.mem_footprint c))
    h.mirrors request).outcome_eq hu hv

variable (hs : s.Linked)

include hs

/-- The drafts of the original are old. -/
theorem lt_of_mem_footprint {n : Nat} (hn : n ∈ (t.footprint id).drafts) : n < s.drafts.size := by
  rw [h.keeping.footprint_eq hs hid] at hn
  exact (hs.closed_footprint hid).kept n hn

/-- The copy stands apart from all that the original is made of. -/
theorem apart : (t.footprint id).Apart t c := by
  have hfree : ∀ k, s.Fresh t k → (t.footprint id).Free t k := by
    rintro k ⟨b, hb, hsize⟩
    exact ⟨b, hb, h.linked.draft k b hb, fun hmem => (h.lt_of_mem_footprint hid hs hmem).not_ge hsize⟩
  exact ⟨(h.linked.closed_footprint (h.keeping.lt hid)).kept, hfree c h.fresh,
    fun j hj k hk => hfree k (h.joins j hj k hk)⟩

/-- The copy is made of new drafts, and of what the original is united with. -/
theorem mem_footprint_copy {n : Nat} (hn : n ∈ (t.footprint c).drafts) :
    s.drafts.size ≤ n ∨ ∃ v ∈ (s.declared id).unions.getD [], n ∈ (s.footprint v.builder).drafts := by
  obtain ⟨m, hm, howns⟩ := hn
  obtain rfl | ⟨m', ⟨v, hv, rfl⟩, hm⟩ := Relation.ReflTransGen.cases_head_iff.1 hm
  · obtain ⟨k, b, hk, hb, rfl⟩ := howns
    have hfresh : s.Fresh t k := by
      obtain rfl | ⟨j, hj, hjk⟩ := hk
      · exact h.fresh
      · exact h.joins j hj k hjk
    obtain ⟨b', hb', hsize⟩ := hfresh
    exact .inl ((Option.some.inj (hb.symm.trans hb')) ▸ hsize)
  · rw [h.mirrors.read (·.unions) fun _ _ => rfl, h.keeping.declared_of_lt hs hid] at hv
    refine .inr ⟨v, hv, ?_⟩
    rw [← h.keeping.footprint_eq hs (hs.union_lt hid hv)]
    exact ⟨m, hm, howns⟩

/-- The original stands apart from what the copy is made of, unless that is what the original is united with. -/
theorem original_apart (hmembers : ∀ v ∈ (s.declared id).unions.getD [], (s.footprint v.builder).Apart s id) :
    (t.footprint c).Apart t id := by
  have hfree : ∀ k, k < s.builders.size →
      (∀ v ∈ (s.declared id).unions.getD [], (s.footprint v.builder).Free s k) → (t.footprint c).Free t k := by
    intro k hk hmembers
    obtain ⟨b, hb, hdraft⟩ := h.keeping.builders k _ (Array.getElem?_eq_getElem hk)
    have hold := hs.draft k _ (Array.getElem?_eq_getElem hk)
    rw [← hdraft] at hold
    refine ⟨b, hb, h.linked.draft k b hb, fun hmem => ?_⟩
    obtain hnew | ⟨v, hv, hmem⟩ := h.mem_footprint_copy hid hs hmem
    · exact hold.not_ge hnew
    · obtain ⟨b', hb', -, hfree⟩ := hmembers v hv
      rw [Array.getElem?_eq_getElem hk] at hb'
      rw [← Option.some.inj hb', ← hdraft] at hfree
      exact hfree hmem
  refine ⟨(h.linked.closed_footprint h.fresh.lt).kept, hfree id hid fun v hv => (hmembers v hv).free, ?_⟩
  intro j hj k hk
  rw [h.keeping.declared_of_lt hs hid] at hj
  exact hfree k (hs.join_lt hid hj hk) fun v hv => (hmembers v hv).join j hj k hk

end Copied

/-- The second builder has been made of the first one: by cloning it, or as the builder that a transaction starts
with. -/
inductive Derives (env : Surroundings) (id : Nat) (s : Session) (c : Nat) (t : Session) : Prop where
  | clone (h : (Declare.clone env.depth id).exec env s = (.ok c, t))
  | transaction (h : Transaction.Starts env id s c t)

theorem Derives.copied (h : Derives env id s c t) (hs : s.Linked) (hid : id < s.builders.size) : s.Copied t id c := by
  -- neither a new scope nor the driver has a part in the copy
  have hopened : ∀ {v}, (Transaction.builderFor id s.scopes.size).exec env s.opened = (.ok c, v) →
      s.Copied v id c := by
    intro v hcopy
    have h := Transaction.copied_builderFor (s := s.opened) ⟨hs.draft, hs.join, hs.union⟩ hid hcopy
    have hkeeping : Keeping s s.opened := .of_eq rfl rfl rfl rfl rfl rfl
    exact ⟨hkeeping.trans h.keeping, h.linked, h.fresh, h.mirrors, h.joins⟩
  cases h with
  | clone h => exact Declare.copied_clone hs h
  | transaction h =>
      cases h with
      | shared hcopy hin => exact hopened hcopy
      | @begun v _ hcopy hout hbegin =>
          have h := hopened hcopy
          obtain rfl : ((Execute.reported Driver.begin).exec env v).2 = t := congrArg Prod.snd hbegin
          rw [Execute.reported_snd]
          have hkeeping : Keeping v (v.called .begin) :=
            .of_eq rfl rfl (DriverCall.engine_after_begin v.driver) rfl rfl rfl
          exact ⟨h.keeping.trans hkeeping, ⟨h.linked.draft, h.linked.join, h.linked.union⟩, h.fresh,
            ⟨h.mirrors.same, h.mirrors.joins⟩, h.joins⟩

/-- A copy compiles to the same as its original, and calls that change the copy leave the original alone, as long as
they take no builder that is part of it. Calls that change the original leave the copy alone, too, unless the original
is part of what it is united with. -/
theorem independent (hs : s.Linked) (hid : id < s.builders.size) (h : Derives env id s c t) :
    Agree env t id c ∧
    (∀ u, Mutations env (t.footprint id) c t u → Unaffected env id t u) ∧
    ((∀ v ∈ (s.declared id).unions.getD [], (s.footprint v.builder).Apart s id) →
      ∀ u, Mutations env (t.footprint c) id t u → Unaffected env c t u) := by
  have hcopied := h.copied hs hid
  refine ⟨hcopied.agree hid, fun u hu => ?_, fun hmembers u hu => ?_⟩
  · exact hcopied.linked.unaffected (hcopied.keeping.lt hid) (hu.spares (hcopied.apart hid hs)).1
  · exact hcopied.linked.unaffected hcopied.fresh.lt (hu.spares (hcopied.original_apart hid hs hmembers)).1

/-- A builder with a join and a condition for it, united with another builder. -/
def joined : Session where
  lead := none
  overwriting := false
  driver := .scripted ⟨.mysql, [], none, none, none, 0, .null, false⟩
  builders := #[⟨.query, 0, none, .bool false, .null, none⟩, ⟨.query, 1, none, .bool false, .null, none⟩,
    ⟨.join, 2, none, .bool false, .null, none⟩]
  drafts := #[
    { Draft.over (.text "people") with
      joins := some [⟨.text "left", .text "pets", some 2⟩]
      unions := some [⟨.all, 1⟩] },
    .over (.text "guests"),
    { criteria := some [⟨.text "pets.owner", .text "=", .text "people.id", .text "AND", true, none⟩] }]

theorem linked_joined : joined.Linked where
  draft id b hb := by
    rcases id with _ | _ | _ | id
    · cases hb
      decide
    · cases hb
      decide
    · cases hb
      decide
    · cases hb
  join n d hd j hj k hk := by
    rcases n with _ | _ | _ | n
    · cases hd
      obtain rfl := List.mem_singleton.1 hj
      cases hk
      decide
    · cases hd
      cases hj
    · cases hd
      cases hj
    · cases hd
  union n d hd u hu := by
    rcases n with _ | _ | _ | n
    · cases hd
      obtain rfl := List.mem_singleton.1 hu
      decide
    · cases hd
      cases hu
    · cases hd
      cases hu
    · cases hd

/-- The guests are made of their own draft alone. -/
theorem eq_of_mem_guests {n : Nat} (hn : n ∈ (joined.footprint 1).drafts) : n = 1 := by
  obtain ⟨m, hm, k, b, hk, hb, rfl⟩ := hn
  obtain rfl | ⟨m', ⟨u, hu, -⟩, -⟩ := Relation.ReflTransGen.cases_head_iff.1 hm
  · obtain rfl | ⟨j, hj, -⟩ := hk
    · cases hb
      rfl
    · cases hj
  · cases hu

/-- One more condition. -/
def named : BuilderCall := .condition "AND" (.text "name") (.text "=") (.text "Ada")

/-- A condition that the clone or the builder itself gets leaves the other one as it was. -/
theorem independent_joined : ∃ t u v, Derives (Play.surroundings 3) 0 joined 4 t ∧
    u = ((named.perform 4).exec (Play.surroundings 3) t).2 ∧ v = ((named.perform 0).exec (Play.surroundings 3) t).2 ∧
    Agree (Play.surroundings 3) t 0 4 ∧ Unaffected (Play.surroundings 3) 0 t u ∧
    Unaffected (Play.surroundings 3) 4 t v := by
  have hclone : (Declare.clone 3 0).exec (Play.surroundings 3) joined =
      (.ok 4, ((Declare.clone 3 0).exec (Play.surroundings 3) joined).2) := rfl
  have hderives : Derives (Play.surroundings 3) 0 joined 4 _ := .clone hclone
  obtain ⟨hagree, hcopy, horiginal⟩ := independent linked_joined (by decide) hderives
  refine ⟨_, _, _, hderives, rfl, rfl, hagree, hcopy _ ?_, horiginal (fun v hv => ?_) _ ?_⟩
  · exact .call (.refl _) 4 named trivial (.inl rfl) (fun m hm => by cases hm) rfl
  · obtain rfl := List.mem_singleton.1 hv
    refine ⟨(linked_joined.closed_footprint (by decide)).kept, ⟨_, rfl, by decide, fun hmem => ?_⟩, fun j hj k hk => ?_⟩
    · cases eq_of_mem_guests hmem
    · obtain rfl := List.mem_singleton.1 hj
      cases hk
      refine ⟨_, rfl, by decide, fun hmem => ?_⟩
      cases eq_of_mem_guests hmem
  · exact .call (.refl _) 0 named trivial (.inl rfl) (fun m hm => by cases hm) rfl

def tables (scripts : Array Script) : Session where
  lead := none
  overwriting := false
  driver := .scripted ⟨.mysql, [], none, none, none, 0, .null, false⟩
  builders := #[⟨.query, 0, none, .bool false, .null, none⟩, ⟨.query, 1, none, .bool false, .null, none⟩,
    ⟨.query, 2, none, .bool false, .null, none⟩, ⟨.query, 3, none, .bool false, .null, none⟩]
  drafts := #[.over (.text "people"), .over (.text "guests"), .over (.text "friends"), .over (.text "strangers")]
  scripts := scripts
  stored := [("people", .builder .query 0), ("column", .text "name")]

def behind (s : Session) (calls : List (Nat × BuilderCall)) : Session :=
  calls.foldl (fun s call => ((call.2.perform call.1).exec (Play.surroundings 4) s).2) s

def cloned (scripts : Array Script) (calls : List (Nat × BuilderCall)) : Session :=
  ((Declare.clone 4 0).exec (Play.surroundings 4) (behind (tables scripts) calls)).2

theorem derives_cloned {scripts : Array Script} {calls : List (Nat × BuilderCall)} {c : Nat}
    (h : ((Declare.clone 4 0).exec (Play.surroundings 4) (behind (tables scripts) calls)).1.toOption = some c) :
    Derives (Play.surroundings 4) 0 (behind (tables scripts) calls) c (cloned scripts calls) := by
  obtain ⟨c, hclone, rfl⟩ := exec_eq_ok (Declare.clone 4 0) (Play.surroundings 4) (behind (tables scripts) calls)
    (fun c => c) (y := c) (by rw [h, Option.map_some])
  exact .clone hclone

def selection (s : Session) (id : Nat) : Option String :=
  ((compile id .select).exec (Play.surroundings 4) s).1.toOption.map (·.sql)

instance (s : Session) (id : Nat) (o : Option String) : Decidable (selection s id = o) :=
  inferInstanceAs (Decidable (((compile id .select).exec (Play.surroundings 4) s).1.toOption.map (·.sql) = o))

/-- The builder is united with the other one. -/
def uniting (member : Nat) : BuilderCall := .union (.builder .query member) (.text "")

/-- A group that asks for another column from its second run on. -/
def wavering : Script where
  steps := [.mk "where" [.variable "column", .value (.text "="), .value (.int 1)] [] {} [] default,
    .mk "let" [.value (.text "age")] [] { result := some "column" } [] default]
  answer := .value .null

/-- A group that declares a condition on a certain builder. -/
def reaching : Script where
  steps := [.mk "where" [.value (.text "age"), .value (.text "="), .value (.int 1)] [] { target := "people" } []
    default]
  answer := .value .null

/-- A group that declares something else in its second run makes a copy different from its original. A script reaches
the original by itself. A union takes the members of its member, which may be part of the original without being one of
its own members, or share its statements. And an original that is united with itself is part of its copy. -/
theorem not_independent :
    (∃ calls t, Derives (Play.surroundings 4) 0 (behind (tables #[wavering]) calls) 4 t ∧
      selection t 0 = some "SELECT * FROM `people` WHERE (`name` = ?)" ∧
      selection ((compile 0 .select).exec (Play.surroundings 4) t).2 4 =
        some "SELECT * FROM `people` WHERE (`age` = ?)") ∧
    (∃ t, Derives (Play.surroundings 4) 0 (behind (tables #[reaching]) []) 4 t ∧
      selection t 0 = some "SELECT * FROM `people`" ∧
      selection (behind t [(4, .join (.text "pets") (.group 0) .null .null (.text ""))]) 0 =
        some "SELECT * FROM `people` WHERE `age` = ?") ∧
    (∃ calls t, Derives (Play.surroundings 4) 0 (behind (tables #[]) calls) 4 t ∧
      (t.declared 0).unions = some [⟨.unmarked, 1⟩] ∧
      selection t 0 = some ("(SELECT * FROM `people`) UNION ((SELECT * FROM `guests`) UNION " ++
        "((SELECT * FROM `friends`) UNION (SELECT * FROM `strangers`)))") ∧
      selection (behind t [(4, uniting 2)]) 0 =
        some "(SELECT * FROM `people`) UNION ((SELECT * FROM `guests`) UNION (SELECT * FROM `friends`))") ∧
    (∃ calls t, Derives (Play.surroundings 4) 0 (behind (tables #[]) calls) 4 t ∧
      (t.declared 0).unions = some [⟨.unmarked, 2⟩] ∧
      selection t 0 = some "(SELECT * FROM `people`) UNION (SELECT * FROM `friends`)" ∧
      selection (behind t [(4, uniting 1)]) 0 = some "SELECT * FROM `people`") ∧
    ∃ calls t, Derives (Play.surroundings 4) 0 (behind (tables #[]) calls) 4 t ∧
      (t.declared 4).unions = some [⟨.unmarked, 0⟩] ∧ selection t 4 = none ∧
      selection (behind t [(0, uniting 1)]) 4 = some ("(SELECT * FROM `people`) UNION " ++
        "((SELECT * FROM `people`) UNION (SELECT * FROM `friends`) UNION (SELECT * FROM `guests`))") := by
  refine ⟨⟨[(0, .condition "AND" (.group 0) .null .null)], _, derives_cloned (by decide +kernel), ?_, ?_⟩,
    ⟨_, derives_cloned (by decide +kernel), ?_, ?_⟩,
    ⟨[(0, uniting 1), (1, uniting 2), (2, uniting 3)], _, derives_cloned (by decide +kernel), rfl, ?_, ?_⟩,
    ⟨[(1, .shareDraft (.builder .query 0)), (0, uniting 2)], _, derives_cloned (by decide +kernel), rfl, ?_, ?_⟩,
    ⟨[(1, uniting 2), (0, uniting 0)], _, derives_cloned (by decide +kernel), rfl, ?_, ?_⟩⟩
  all_goals decide +kernel

end Session

end SqlBuilder
