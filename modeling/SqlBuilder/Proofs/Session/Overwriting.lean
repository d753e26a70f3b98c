import SqlBuilder.Proofs.Session.Independence
import SqlBuilder.Proofs.Session.Replacing

/-!
Conditions on a builder that overwrites. Of the conditions with one key the latest are kept. As a rule that is one. But
a group that declares the key may stand in front of the condition with it, and then a new condition takes the place of
the group.
-/

namespace SqlBuilder

open Act Session

variable {env : Surroundings} {s t u : Session} {id : Nat} {b : Builder} {d : Draft}

namespace Declare.EntryList

variable {α : Type} {entries : EntryList α} {key : Value}

/-! ### The entries with one key -/

/-- The entries with a key. -/
def under (entries : EntryList α) (k : Value) (xs : List α) : List α := xs.filter fun x => (entries.key x).same k

/-- How many entries are groups. -/
def groups (entries : EntryList α) (xs : List α) : Nat := xs.countP fun x => (entries.key x).isCallable

/-- There are fewer groups than before although there was an entry with the key: the new entry has taken the place of a
group, and not of that entry. -/
def passes (entries : EntryList α) (k : Value) (before after : List α) : Bool :=
  before.any (fun x => (entries.key x).same k) && decide (entries.groups after < entries.groups before)

section Under

variable {k : Value} {xs ys front back : List α} {x y : α}

theorem under_append (k : Value) (xs ys : List α) :
    entries.under k (xs ++ ys) = entries.under k xs ++ entries.under k ys := List.filter_append ..

theorem under_cons (k : Value) (x : α) (xs : List α) :
    entries.under k (x :: xs) = if (entries.key x).same k then x :: entries.under k xs else entries.under k xs :=
  List.filter_cons

theorem under_eq_nil_iff : entries.under k xs = [] ↔ ∀ x ∈ xs, (entries.key x).same k = false :=
  List.filter_eq_nil_iff.trans (forall₂_congr fun _ _ => Bool.eq_false_iff.symm)

theorem under_eq_nil (h : ∀ x ∈ xs, (entries.key x).same k = false) : entries.under k xs = [] :=
  under_eq_nil_iff.2 h

theorem any_eq_false_iff : xs.any (fun x => (entries.key x).same k) = false ↔ entries.under k xs = [] :=
  (List.any_eq_false.trans (forall₂_congr fun _ _ => Bool.eq_false_iff.symm)).trans under_eq_nil_iff.symm

theorem groups_append (xs ys : List α) : entries.groups (xs ++ ys) = entries.groups xs + entries.groups ys :=
  List.countP_append

theorem groups_cons (x : α) (xs : List α) :
    entries.groups (x :: xs) = entries.groups xs + if (entries.key x).isCallable then 1 else 0 := List.countP_cons

/-- Equal keys find the same entries. -/
theorem same_eq_of_same (hkey : key.Fair) (hx : (entries.key x).Fair) (h : key.same k = true) :
    (entries.key x).same key = (entries.key x).same k := by
  rw [Bool.eq_iff_iff]
  exact ⟨fun hsame => hx.trans _ _ hsame h, fun hsame => hx.trans _ _ hsame (hkey.symm _ h)⟩

/-- What gives way to a key is no entry with another one that cannot be called. -/
theorem Yields.other (h : entries.Yields env key x) (hkey : key.Fair) (hx : (entries.key x).Fair)
    (hplain : k.isCallable = false) (hother : key.same k = false) : (entries.key x).same k = false := by
  refine Bool.eq_false_iff.2 fun hsame => ?_
  cases h with
  | same h => exact absurd (hkey.trans _ _ (hx.symm _ h) hsame) (Bool.eq_false_iff.1 hother)
  | group hcallable _ => exact absurd ((Value.isCallable_eq_of_same hsame).symm.trans hcallable) (by simp [hplain])

/-- The entries with another key that cannot be called stay. -/
theorem Clears.under_other (h : entries.Clears env key xs ys) (hkey : key.Fair) (hxs : ∀ x ∈ xs, (entries.key x).Fair)
    (hplain : k.isCallable = false) (hother : key.same k = false) : entries.under k ys = entries.under k xs := by
  cases h with
  | whole => rfl
  | without heq _ hx =>
      subst heq
      have hxk := hx.other hkey (hxs _ List.mem_append_cons_self) hplain hother
      rw [under_append, under_append, under_cons, if_neg (Bool.eq_false_iff.1 hxk)]

/-- No entry comes in. -/
theorem Clears.subset (h : entries.Clears env key xs ys) : ys ⊆ xs := by
  cases h with
  | whole => exact List.Subset.refl xs
  | without heq =>
      subst heq
      exact (List.append_sublist_append_left _).2 (List.sublist_cons_self _ _) |>.subset

/-- The ways for the entries with the key to give way: there are none, the first one of them does, or all of them stay
and a group that declares the key is dropped. -/
theorem Clears.under_same (h : entries.Clears env key xs ys) (hkey : key.Fair) (hxs : ∀ x ∈ xs, (entries.key x).Fair)
    (hplain : k.isCallable = false) (hsame : key.same k = true) :
    entries.under k ys = (entries.under k xs).tail ∧ entries.groups ys = entries.groups xs ∨
      entries.under k ys = entries.under k xs ∧ entries.groups xs = entries.groups ys + 1 ∧
        ∃ x ∈ xs, (entries.key x).isCallable = true ∧ entries.Mentions env (entries.key x) key := by
  cases h with
  | whole h =>
      refine .inl ⟨?_, rfl⟩
      have hnone : entries.under k xs = [] := under_eq_nil fun x hx => by
        rw [← same_eq_of_same hkey (hxs x hx) hsame]
        exact h x hx
      rw [hnone, List.tail_nil]
  | @without front back x heq hfront hx =>
      subst heq
      have hfair := hxs x List.mem_append_cons_self
      cases hx with
      | same hxkey =>
          refine .inl ⟨?_, ?_⟩
          · have hnone : entries.under k front = [] := under_eq_nil fun y hy => by
              rw [← same_eq_of_same hkey (hxs y (List.mem_append_left _ hy)) hsame]
              exact hfront y hy
            rw [same_eq_of_same hkey hfair hsame] at hxkey
            rw [under_append, under_append, hnone, under_cons, if_pos hxkey, List.nil_append, List.nil_append,
              List.tail_cons]
          · have hcallable : (entries.key x).isCallable = false :=
              (Value.isCallable_eq_of_same hxkey).trans ((Value.isCallable_eq_of_same hsame).trans hplain)
            rw [groups_append, groups_append, groups_cons, if_neg (Bool.eq_false_iff.1 hcallable), Nat.add_zero]
      | group hcallable hmentions =>
          refine .inr ⟨?_, ?_, x, List.mem_append_cons_self, hcallable, hmentions⟩
          · have hxk : (entries.key x).same k = false := Bool.eq_false_iff.2 fun h =>
              absurd ((Value.isCallable_eq_of_same h).symm.trans hcallable) (by simp [hplain])
            rw [under_append, under_append, under_cons, if_neg (Bool.eq_false_iff.1 hxk)]
          · rw [groups_append, groups_append, groups_cons, if_pos hcallable, Nat.add_assoc]

/-- What is passed is declared by a group in the list. -/
theorem Clears.mentions_of_passes (h : entries.Clears env (entries.key x) xs ys)
    (hpasses : entries.passes (entries.key x) xs (ys ++ [x]) = true) : ∃ y ∈ xs, (entries.key y).isCallable = true ∧
      entries.Mentions env (entries.key y) (entries.key x) := by
  have hfewer : entries.groups (ys ++ [x]) < entries.groups xs :=
    of_decide_eq_true ((Bool.and_eq_true _ _).mp hpasses).2
  cases h with
  | whole =>
      rw [groups_append] at hfewer
      omega
  | @without front back y heq _ hy =>
      subst heq
      refine ⟨y, List.mem_append_cons_self, ?_⟩
      rw [groups_append, groups_append, groups_append, groups_cons, groups_cons] at hfewer
      cases hy with
      | group hcallable hmentions => exact ⟨hcallable, hmentions⟩
      | same hsame =>
          rw [Value.isCallable_eq_of_same hsame] at hfewer
          omega

/-- The entries with a key against what has been declared with it: they are the latest ones, and there is one more of
them than keys that have been passed. -/
structure Tallies (entries : EntryList α) (env : Surroundings) (k : Value) (xs declared : List α)
    (passed : List Value) : Prop where
  subset : xs ⊆ declared
  suffix : entries.under k xs <:+ entries.under k declared
  length : (entries.under k xs).length =
    if (entries.under k declared).isEmpty then 0 else 1 + passed.countP fun p => p.same k
  mentioned : ∀ p ∈ passed, (∃ x ∈ declared, entries.key x = p) ∧
    ∃ x ∈ declared, (entries.key x).isCallable = true ∧ entries.Mentions env (entries.key x) p

namespace Tallies

variable {declared : List α} {passed : List Value}

theorem nil : entries.Tallies env k [] [] [] :=
  ⟨List.Subset.refl _, List.suffix_refl _, rfl, fun _ hp => absurd hp List.not_mem_nil⟩

/-- Without a declaration nothing has been passed. -/
theorem passed_eq_zero (h : entries.Tallies env k xs declared passed) (hnone : entries.under k declared = []) :
    passed.countP (fun p => p.same k) = 0 := by
  refine List.countP_eq_zero.2 fun p hp => ?_
  obtain ⟨⟨x, hx, rfl⟩, -⟩ := h.mentioned p hp
  exact Bool.eq_false_iff.1 (under_eq_nil_iff.1 hnone x hx)

theorem length_of_nil (h : entries.Tallies env k xs declared passed) (hnone : entries.under k xs = []) :
    passed.countP (fun p => p.same k) = 0 := by
  refine h.passed_eq_zero ?_
  have hlength := h.length
  rw [hnone] at hlength
  split at hlength
  · exact List.isEmpty_iff.1 ‹_›
  · rw [List.length_nil] at hlength
    omega

theorem length_of_ne_nil (h : entries.Tallies env k xs declared passed) (hsome : entries.under k xs ≠ []) :
    (entries.under k xs).length = 1 + passed.countP (fun p => p.same k) := by
  have hlength := h.length
  split at hlength
  · exact absurd (List.length_eq_zero_iff.1 hlength) hsome
  · exact hlength

/-- One more declaration with the key. -/
theorem length_step (h : entries.Tallies env k xs declared passed) (hclears : entries.Clears env (entries.key x) xs ys)
    (hxs : ∀ y ∈ xs, (entries.key y).Fair) (hx : (entries.key x).Fair) (hplain : k.isCallable = false)
    (hsame : (entries.key x).same k = true) : (entries.under k ys).length + 1 =
      1 + (passed ++ if entries.passes (entries.key x) xs (ys ++ [x]) then [entries.key x] else []).countP
        (fun p => p.same k) := by
  have hcallable : (entries.key x).isCallable = false := (Value.isCallable_eq_of_same hsame).trans hplain
  have hgroups : entries.groups (ys ++ [x]) = entries.groups ys := by
    rw [groups_append, groups_cons, if_neg (Bool.eq_false_iff.1 hcallable)]
    rfl
  have hunder : entries.under (entries.key x) xs = entries.under k xs :=
    List.filter_congr fun y hy => same_eq_of_same hx (hxs y hy) hsame
  unfold passes
  rw [hgroups, List.countP_append]
  rcases hclears.under_same hx hxs hplain hsame with ⟨hys, hsize⟩ | ⟨hys, hsize, -⟩
  · -- no group has been dropped
    rw [hys, hsize, decide_eq_false (Nat.lt_irrefl _), Bool.and_false, if_neg Bool.false_ne_true, List.countP_nil]
    by_cases hnone : entries.under k xs = []
    · rw [hnone, h.length_of_nil hnone]
      rfl
    · rw [List.length_tail, h.length_of_ne_nil hnone]
      omega
  · rw [hys, hsize, decide_eq_true (Nat.lt_succ_self _), Bool.and_true]
    by_cases hnone : entries.under k xs = []
    · rw [any_eq_false_iff.2 (hunder.trans hnone), if_neg Bool.false_ne_true, hnone, h.length_of_nil hnone]
      rfl
    · have hany : xs.any (fun y => (entries.key y).same (entries.key x)) = true :=
        Bool.eq_true_of_not_eq_false fun hany => hnone (hunder.symm.trans (any_eq_false_iff.1 hany))
      rw [hany, if_pos rfl, List.countP_singleton, if_pos hsame, h.length_of_ne_nil hnone]
      omega

/-- One more declaration. -/
theorem step (h : entries.Tallies env k xs declared passed) (hclears : entries.Clears env (entries.key x) xs ys)
    (hdeclared : ∀ y ∈ declared, (entries.key y).Fair) (hx : (entries.key x).Fair) (hplain : k.isCallable = false) :
    entries.Tallies env k (ys ++ [x]) (declared ++ [x])
      (passed ++ if entries.passes (entries.key x) xs (ys ++ [x]) then [entries.key x] else []) where
  subset y hy := by
    rcases List.mem_append.1 hy with hy | hy
    · exact List.mem_append_left _ (h.subset (hclears.subset hy))
    · exact List.mem_append_right _ hy
  suffix := by
    have hxs : ∀ y ∈ xs, (entries.key y).Fair := fun y hy => hdeclared y (h.subset hy)
    have hys : entries.under k ys <:+ entries.under k xs := by
      cases hsame : (entries.key x).same k with
      | false => exact hclears.under_other hx hxs hplain hsame ▸ List.suffix_refl _
      | true =>
          rcases hclears.under_same hx hxs hplain hsame with ⟨hys, -⟩ | ⟨hys, -⟩
          · exact hys ▸ List.tail_suffix _
          · exact hys ▸ List.suffix_refl _
    obtain ⟨front, hfront⟩ := hys.trans h.suffix
    exact ⟨front, by rw [under_append, under_append, ← hfront, List.append_assoc]⟩
  length := by
    have hxs : ∀ y ∈ xs, (entries.key y).Fair := fun y hy => hdeclared y (h.subset hy)
    rw [under_append, under_append, List.length_append, under_cons]
    cases hsame : (entries.key x).same k with
    | false =>
        have hpassed : (if entries.passes (entries.key x) xs (ys ++ [x]) then [entries.key x] else []).countP
            (fun p => p.same k) = 0 := by
          split
          · rw [List.countP_singleton, if_neg (Bool.eq_false_iff.1 hsame)]
          · rfl
        rw [hclears.under_other hx hxs hplain hsame, List.countP_append, hpassed, h.length]
        simp [under]
    | true =>
        rw [if_pos rfl, if_neg (by simp)]
        exact h.length_step hclears hxs hx hplain hsame
  mentioned := by
    intro p hp
    rcases List.mem_append.1 hp with hp | hp
    · obtain ⟨⟨y, hy, hyp⟩, z, hz, hmentions⟩ := h.mentioned p hp
      exact ⟨⟨y, List.mem_append_left _ hy, hyp⟩, z, List.mem_append_left _ hz, hmentions⟩
    · cases hpasses : entries.passes (entries.key x) xs (ys ++ [x]) with
      | false =>
          rw [hpasses] at hp
          cases hp
      | true =>
          rw [hpasses, if_pos rfl, List.mem_singleton] at hp
          obtain ⟨z, hz, hmentions⟩ := hclears.mentions_of_passes hpasses
          exact ⟨⟨x, List.mem_append_right _ (List.mem_singleton_self x), hp.symm⟩, z,
            List.mem_append_left _ (h.subset hz), hp ▸ hmentions⟩

/-- If no key has been passed, there is one entry at most. -/
theorem latest (h : entries.Tallies env k xs declared passed) (hpassed : passed.countP (fun p => p.same k) = 0) :
    entries.under k xs = (entries.under k declared).getLast?.toList := by
  have hlength := h.length
  obtain ⟨front, hfront⟩ := h.suffix
  rw [← hfront, hpassed] at hlength
  rw [← hfront]
  rcases hxs : entries.under k xs with _ | ⟨x, rest⟩
  · rw [hxs] at hlength
    cases front with
    | nil => rfl
    | cons => cases hlength
  · rw [hxs] at hlength
    have hrest : rest = [] := by
      cases rest with
      | nil => rfl
      | cons => cases front <;> cases hlength
    rw [hrest, List.getLast?_append, List.getLast?_singleton]
    rfl

end Tallies

end Under

end Declare.EntryList

/-! ### Conditions -/

open Declare

/-- A condition as a builder with a prefix declares it. -/
def Criterion.declared (lead : Option String) (joiner : String) (key operator operand : Value) : Criterion :=
  { key := NameScope.columns.addPrefix lead key, operator, operand, joiner := .text joiner }

/-- A builder that is no group declares a condition among those on rows. -/
theorem Session.Has.exec_condition (h : s.Has id b d) (hrole : b.role ≠ .group) (joiner : String)
    (key operator operand : Value) :
    (Declare.condition id joiner key operator operand).exec env s = (do
      EntryList.wheres.dropReplaced id (NameScope.columns.addPrefix b.lead key)
      EntryList.wheres.push id (.declared b.lead joiner key operator operand) : Act Unit).exec env s := by
  unfold Declare.condition
  rw [exec_bind_ok (h.exec_withLead _ _)]
  dsimp only
  rw [exec_bind_ok h.exec_builder, if_neg hrole]
  rfl

/-- A call for a condition that fails leaves the builder as it was. -/
theorem condition_cases [env.Keeps (Untouched id)] (h : s.Has id b d) (hrole : b.role ≠ .group)
    (hoverwriting : b.overwriting.isTruthy = true) {joiner : String} {key operator operand : Value}
    {outcome : Except Fault Value}
    (hexec : ((BuilderCall.condition joiner key operator operand).perform id).exec env s = (outcome, t)) :
    (∃ fault, outcome = .error fault) ∧ t.Has id b d ∨ (∃ v, outcome = .ok v) ∧ ∃ xs,
      EntryList.wheres.Clears env (NameScope.columns.addPrefix b.lead key) (EntryList.wheres.listed d) xs ∧
        t.Has id b { d with wheres := some (xs ++ [.declared b.lead joiner key operator operand]) } := by
  change (BuilderCall.declaring id (Declare.condition id joiner key operator operand)).exec env s = _ at hexec
  unfold BuilderCall.declaring at hexec
  rw [exec_bind, h.exec_condition hrole] at hexec
  rcases hreplace : (do
      EntryList.wheres.dropReplaced id (NameScope.columns.addPrefix b.lead key)
      EntryList.wheres.push id (.declared b.lead joiner key operator operand) : Act Unit).exec env s with ⟨outcome', u⟩
  rw [hreplace] at hexec
  rcases EntryList.replace_cases EntryList.lawful_wheres h hoverwriting hreplace with
    ⟨⟨fault, rfl⟩, hu⟩ | ⟨rfl, xs, hclears, hu⟩
  · cases hexec
    exact .inl ⟨⟨fault, rfl⟩, hu⟩
  · dsimp only at hexec
    rw [hu.exec_builderValue] at hexec
    cases hexec
    exact .inr ⟨⟨_, rfl⟩, xs, hclears, hu⟩

/-- The conditions that have been declared on a builder since a state, the latest one last, with the keys that have been
passed. A call may fail, and in between anything may happen that leaves the builder alone. The scripts of groups do. -/
inductive Conditioned (env : Surroundings) (id : Nat) (lead : Option String) (s : Session) :
    Session → List Criterion → List Value → Prop where
  | start : Conditioned env id lead s s [] []
  | between {t u : Session} {declared : List Criterion} {passed : List Value}
      (h : Conditioned env id lead s t declared passed) (hbetween : Untouched id t u) :
      Conditioned env id lead s u declared passed
  | failed {t u : Session} {declared : List Criterion} {passed : List Value} {joiner : String}
      {key operator operand : Value} {fault : Fault} (h : Conditioned env id lead s t declared passed)
      (hscripts : Confined (Untouched id) env ((BuilderCall.condition joiner key operator operand).perform id) t)
      (hcall : ((BuilderCall.condition joiner key operator operand).perform id).exec env t = (.error fault, u)) :
      Conditioned env id lead s u declared passed
  | called {t u : Session} {declared : List Criterion} {passed : List Value} {joiner : String}
      {key operator operand v : Value} (h : Conditioned env id lead s t declared passed)
      (hscripts : Confined (Untouched id) env ((BuilderCall.condition joiner key operator operand).perform id) t)
      (hcall : ((BuilderCall.condition joiner key operator operand).perform id).exec env t = (.ok v, u)) :
      Conditioned env id lead s u (declared ++ [.declared lead joiner key operator operand])
        (passed ++ if EntryList.wheres.passes (NameScope.columns.addPrefix lead key)
          (EntryList.wheres.listed (t.declared id)) (EntryList.wheres.listed (u.declared id))
          then [NameScope.columns.addPrefix lead key] else [])

variable {declared : List Criterion} {passed : List Value}

theorem Conditioned.tallies (h : Conditioned env id b.lead s t declared passed) (hs : s.Has id b d)
    (hempty : d.wheres.getD [] = []) (hrole : b.role ≠ .group) (hoverwriting : b.overwriting.isTruthy = true)
    (hproper : ∀ c ∈ declared, c.key.IsProper) {k : Value} (hplain : k.isCallable = false) :
    ∃ d', t.Has id b d' ∧ EntryList.wheres.Tallies env k (EntryList.wheres.listed d') declared passed := by
  induction h with
  | start =>
      refine ⟨d, hs, ?_⟩
      rw [show EntryList.wheres.listed d = [] from hempty]
      exact .nil
  | between _ hbetween ih =>
      obtain ⟨d', hd', htallies⟩ := ih hproper
      exact ⟨d', hbetween _ _ hd', htallies⟩
  | failed _ hscripts hcall ih =>
      obtain ⟨d', hd', htallies⟩ := ih hproper
      rw [← hscripts] at hcall
      obtain ⟨-, hu⟩ | ⟨⟨v, hv⟩, -⟩ := condition_cases hd' hrole hoverwriting hcall
      · exact ⟨d', hu, htallies⟩
      · cases hv
  | @called t u declared passed joiner key operator operand v _ hscripts hcall ih =>
      have hearlier : ∀ c ∈ declared, c.key.IsProper := fun c hc => hproper c (List.mem_append_left _ hc)
      have hnew : Value.IsProper (NameScope.columns.addPrefix b.lead key) :=
        hproper (.declared b.lead joiner key operator operand) (List.mem_append_right _ (List.mem_singleton_self _))
      obtain ⟨d', hd', htallies⟩ := ih hearlier
      rw [← hscripts] at hcall
      obtain ⟨⟨fault, hfault⟩, -⟩ | ⟨-, xs, hclears, hu⟩ := condition_cases hd' hrole hoverwriting hcall
      · cases hfault
      · refine ⟨_, hu, ?_⟩
        rw [hd'.declared_eq, hu.declared_eq]
        exact htallies.step hclears.widen (fun c hc => (hearlier c hc).fair) hnew.fair hplain

def Session.conditionsUnder (s : Session) (id : Nat) (k : Value) : List Criterion :=
  EntryList.wheres.under k (EntryList.wheres.listed (s.declared id))

/-- On a builder that overwrites, the conditions with a key are the latest that have been declared with it, and the last
of all is among them. There is one more of them than calls with the key that dropped a group in front of a condition
with it. If no group declares the key there is only that one. -/
theorem conditionsUnder_of_conditioned (h : Conditioned env id b.lead s t declared passed) (hs : s.Has id b d)
    (hempty : d.wheres.getD [] = []) (hrole : b.role ≠ .group) (hoverwriting : b.overwriting.isTruthy = true)
    (hproper : ∀ c ∈ declared, c.key.IsProper) {k : Value} (hplain : k.isCallable = false) :
    t.conditionsUnder id k <:+ EntryList.wheres.under k declared ∧
      (t.conditionsUnder id k).length =
        (if (EntryList.wheres.under k declared).isEmpty then 0 else 1 + passed.countP fun p => p.same k) ∧
      ((∀ g ∈ declared, g.key.isCallable = true → ∀ c ∈ EntryList.wheres.under k declared,
          ¬EntryList.wheres.Mentions env g.key c.key) →
        t.conditionsUnder id k = (EntryList.wheres.under k declared).getLast?.toList) := by
  obtain ⟨d', hd', htallies⟩ := h.tallies hs hempty hrole hoverwriting hproper hplain
  rw [conditionsUnder, hd'.declared_eq]
  refine ⟨htallies.suffix, htallies.length, fun hgroups => htallies.latest (List.countP_eq_zero.2 fun p hp hsame => ?_)⟩
  obtain ⟨⟨c, hc, rfl⟩, g, hg, hcallable, hmentions⟩ := htallies.mentioned p hp
  exact hgroups g hg hcallable c (List.mem_filter.2 ⟨hc, hsame⟩) hmentions

/-- Groups run, and declare nothing. -/
def Surroundings.silent (depth : Nat) : Surroundings := { scriptless depth with fill := fun _ _ => pure () }

instance {R : Session → Session → Prop} [IsPreorder Session R] (depth : Nat) : (Surroundings.silent depth).Keeps R where
  fill _ _ s := refl s
  notify _ _ _ s := refl s

theorem Declare.EntryList.not_mentions_silent {depth : Nat} {group key : Value} :
    ¬wheres.Mentions (.silent depth) group key := by
  rintro ⟨s, t, u, scratch, d, hnew, hcall, hdraft, hany⟩
  cases hnew
  have hown := Has.built s ⟨.query, s.drafts.size, s.lead, .bool s.overwriting, .null, none⟩ rfl
  cases group with
  | group script =>
      change (fillBuilder script _).exec _ _ = _ at hcall
      rw [fillBuilder, exec_bind_ok hown.exec_builderValue] at hcall
      cases hcall
      cases (Act.exec_draft hown.builder).symm.trans hdraft
      rw [hown.draft] at hany
      cases hany
  | _ => cases hcall

/-- One more call that succeeds. -/
theorem Conditioned.called_ok {lead : Option String} (h : Conditioned env id lead s t declared passed) (joiner : String)
    (key operator operand : Value)
    (hscripts : Confined (Untouched id) env ((BuilderCall.condition joiner key operator operand).perform id) t)
    (hcall : (((BuilderCall.condition joiner key operator operand).perform id).exec env t).1.toOption.isSome = true) :
    ∃ passed, Conditioned env id lead s
      (((BuilderCall.condition joiner key operator operand).perform id).exec env t).2
      (declared ++ [.declared lead joiner key operator operand]) passed := by
  obtain ⟨v, hv⟩ := Option.isSome_iff_exists.1 hcall
  obtain ⟨v, hv, -⟩ := exec_eq_ok _ env t (fun v => v) (y := v) (by rw [hv, Option.map_some])
  exact ⟨_, .called h hscripts hv⟩

/-- A condition takes the place of the one with its key, past a group in front of both and a group in between. -/
theorem conditionsUnder_of_conditioned_group : ∃ t passed,
    Conditioned (.silent 1) 0 none (Session.overwritten #[]) t
      [.declared none "AND" (.group 0) .null .null, .declared none "AND" (.text "a") (.text "=") (.int 1),
        .declared none "AND" (.group 0) .null .null, .declared none "OR" (.text "a") (.text "=") (.int 2)] passed ∧
      t.conditionsUnder 0 (.text "a") = [.declared none "OR" (.text "a") (.text "=") (.int 2)] := by
  have hstart : Conditioned (.silent 1) 0 none (Session.overwritten #[]) (Session.overwritten #[]) [] [] := .start
  obtain ⟨_, hfront⟩ := hstart.called_ok "AND" (.group 0) .null .null (.of_keeps _ _) (by decide +kernel)
  obtain ⟨_, hfirst⟩ := hfront.called_ok "AND" (.text "a") (.text "=") (.int 1) (.of_keeps _ _) (by decide +kernel)
  obtain ⟨_, hgroup⟩ := hfirst.called_ok "AND" (.group 0) .null .null (.of_keeps _ _) (by decide +kernel)
  obtain ⟨passed, hlast⟩ := hgroup.called_ok "OR" (.text "a") (.text "=") (.int 2) (.of_keeps _ _) (by decide +kernel)
  refine ⟨_, passed, hlast, ?_⟩
  have hproper : ∀ c ∈ ([] ++ [Criterion.declared none "AND" (.group 0) .null .null] ++
      [.declared none "AND" (.text "a") (.text "=") (.int 1)] ++ [.declared none "AND" (.group 0) .null .null] ++
      [.declared none "OR" (.text "a") (.text "=") (.int 2)]), c.key.IsProper := by
    intro c hc
    simp only [List.nil_append, List.cons_append, List.mem_cons, List.not_mem_nil, or_false] at hc
    rcases hc with rfl | rfl | rfl | rfl <;> trivial
  obtain ⟨-, -, hsingle⟩ := conditionsUnder_of_conditioned (b := ⟨.query, 0, none, .bool true, .null, none⟩)
    (k := .text "a") hlast ⟨rfl, rfl⟩ rfl (by decide) rfl hproper rfl
  exact (hsingle fun _ _ _ _ _ => EntryList.not_mentions_silent).trans rfl

/-- A group that declares a condition with a key. -/
def mentioning : Script where
  steps := [.mk "where" [.value (.text "a"), .value (.text "="), .value (.int 5)] [] {} [] default]
  answer := .value .null

/-- A group in front of a condition with the key is dropped in its place, and then there are two of them. -/
theorem not_single_condition :
    (Session.overwritten #[mentioning]).Has 0 ⟨.query, 0, none, .bool true, .null, none⟩ (.over (.text "people")) ∧
      ((behind (.overwritten #[mentioning]) [(0, .condition "AND" (.text "a") (.text "=") (.int 1)),
        (0, .condition "AND" (.group 0) .null .null), (0, .condition "AND" (.text "a") (.text "=") (.int 2)),
        (0, .condition "AND" (.text "a") (.text "=") (.int 3))]).conditionsUnder 0 (.text "a")).map
          (fun c => c.operand.asInt?) = [some 2, some 3] := by
  refine ⟨⟨rfl, rfl⟩, ?_⟩
  decide +kernel

end SqlBuilder
