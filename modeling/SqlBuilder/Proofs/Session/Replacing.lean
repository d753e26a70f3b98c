import SqlBuilder.Proofs.Equality
import SqlBuilder.Proofs.Session.Places
import SqlBuilder.Proofs.Session.Untouched

/-!
What a new entry takes the place of on a builder that overwrites. The list is searched from its front for an entry with
the key, or for a group that declares the key when it is run. The first one found is dropped, and the new entry stands
at the end.
-/

namespace SqlBuilder

open Act Session

variable {env : Surroundings} {s t u : Session} {id : Nat} {b : Builder} {d : Draft}

namespace Declare.EntryList

variable {α : Type} {entries : EntryList α} {key : Value}

/-- A list of a draft that can be replaced without anything else. -/
structure Lawful (entries : EntryList α) : Prop where
  get_set : ∀ xs d, entries.get (entries.set xs d) = xs
  set_set : ∀ xs ys d, entries.set xs (entries.set ys d) = entries.set xs d

theorem lawful_wheres : wheres.Lawful := ⟨fun _ _ => rfl, fun _ _ _ => rfl⟩

theorem lawful_havings : havings.Lawful := ⟨fun _ _ => rfl, fun _ _ _ => rfl⟩

theorem lawful_joins : joins.Lawful := ⟨fun _ _ => rfl, fun _ _ _ => rfl⟩

theorem lawful_orderBys : orderBys.Lawful := ⟨fun _ _ => rfl, fun _ _ _ => rfl⟩

/-- The entries of a draft, none if they were never declared. -/
def listed (entries : EntryList α) (d : Draft) : List α := (entries.get d).getD []

theorem keys_eq (d : Draft) : entries.keys d = (entries.listed d).map entries.key := rfl

/-- Run on a new builder in some state, the group declares an entry with the key. -/
def Mentions (entries : EntryList α) (env : Surroundings) (group key : Value) : Prop :=
  ∃ s t u scratch d, (Act.newBuilder .query).exec env s = (.ok scratch, t) ∧
    (callOn group scratch).exec env t = (.ok (), u) ∧ (Act.draft scratch).exec env u = (.ok d, u) ∧
      (entries.keys d).any (fun k => k.same key) = true

/-- The entry gives way to a new one with the key. -/
inductive Yields (entries : EntryList α) (env : Surroundings) (key : Value) (x : α) : Prop where
  | same (h : (entries.key x).same key = true)
  | group (hcallable : (entries.key x).isCallable = true) (h : entries.Mentions env (entries.key x) key)

/-- Scripts that are not restricted do the same. -/
theorem Yields.widen {R : Session → Session → Prop} {x : α} (h : entries.Yields (env.within R) key x) :
    entries.Yields env key x := by
  cases h with
  | same h => exact .same h
  | group hcallable h =>
      obtain ⟨s, t, u, scratch, d, hnew, hcall, hdraft, hany⟩ := h
      refine .group hcallable ⟨s, t, u, scratch, d, hnew, ?_, ?_, hany⟩
      · exact Widens.making.callOn _ _ _ _ _ hcall
      · exact Widens.making.draft _ _ _ _ hdraft

/-! ### The search -/

/-- What a search from a place on comes to: the first entry that gives way, or none. No entry that has been passed has
the key. -/
structure Finds (entries : EntryList α) (env : Surroundings) (key : Value) (xs : List α) (place : Nat)
    (found : Option Nat) : Prop where
  yields : ∀ i, found = some i → place ≤ i ∧ ∃ x, xs[i]? = some x ∧ entries.Yields env key x
  passed : ∀ i x, place ≤ i → (∀ j, found = some j → i < j) → xs[i]? = some x → (entries.key x).same key = false

namespace Finds

variable {xs : List α} {x : α} {place : Nat} {found : Option Nat}

theorem nothing (h : xs[place]? = none) : entries.Finds env key xs place none where
  yields i hi := by cases hi
  passed i x hi _ hx := by
    rw [List.getElem?_eq_none_iff.2 ((List.getElem?_eq_none_iff.1 h).trans hi)] at hx
    cases hx

theorem here (hx : xs[place]? = some x) (h : entries.Yields env key x) :
    entries.Finds env key xs place (some place) where
  yields i hi := by
    cases hi
    exact ⟨Nat.le_refl _, x, hx, h⟩
  passed i y hi hlt _ := absurd (hlt place rfl) (Nat.not_lt.2 hi)

theorem later (hx : xs[place]? = some x) (hother : (entries.key x).same key = false)
    (h : entries.Finds env key xs (place + 1) found) : entries.Finds env key xs place found where
  yields i hi := by
    obtain ⟨hle, hy⟩ := h.yields i hi
    exact ⟨Nat.le_of_succ_le hle, hy⟩
  passed i y hi hlt hy := by
    rcases Nat.eq_or_lt_of_le hi with rfl | hi
    · cases hx.symm.trans hy
      exact hother
    · exact h.passed i y hi hlt hy

end Finds

theorem state_of_exec_draft {k : Nat} {d : Draft} (h : (Act.draft k).exec env s = (.ok d, t)) : t = s := by
  obtain ⟨n, u, hn, hd⟩ := exec_bind_eq_ok h
  obtain ⟨b, w, hb, hw⟩ := exec_bind_eq_ok hn
  cases hd
  cases hw
  exact (exec_builder_eq_ok hb).2

theorem finds_of_exec [env.Keeps (Untouched id)] (h : s.Has id b d) {fuel place : Nat} {found : Option Nat}
    (hexec : (entries.placeFrom b.draft key fuel place).exec env s = (.ok found, t)) :
    entries.Finds env key (entries.listed d) place found := by
  induction fuel generalizing place s with
  | zero => cases hexec
  | succ fuel ih =>
      rw [placeFrom, exec_bind_ok h.exec_draftAt, keys_eq, List.getElem?_map] at hexec
      rcases hentry : (entries.listed d)[place]? with _ | x
      · rw [hentry] at hexec
        cases hexec
        exact .nothing hentry
      · rw [hentry, Option.map_some] at hexec
        -- what comes of the entry when it is not a group that declares the key
        have hrest : ∀ {v : Session}, v.Has id b d →
            (if (entries.key x).same key then pure (some place)
              else entries.placeFrom b.draft key fuel (place + 1) : Act (Option Nat)).exec env v = (.ok found, t) →
            entries.Finds env key (entries.listed d) place found := by
          intro v hv hexec
          cases hsame : (entries.key x).same key with
          | true =>
              rw [if_pos hsame] at hexec
              cases hexec
              exact .here hentry (.same hsame)
          | false =>
              rw [if_neg (Bool.eq_false_iff.1 hsame)] at hexec
              exact .later hentry hsame (ih hv hexec)
        cases hcallable : (entries.key x).isCallable with
        | false => exact hrest h (by simpa only [hcallable, Bool.false_eq_true, if_false] using hexec)
        | true =>
            simp only [hcallable, if_true] at hexec
            obtain ⟨scratch, v, hnew, hexec⟩ := exec_bind_eq_ok hexec
            obtain ⟨⟨⟩, w, hcall, hexec⟩ := exec_bind_eq_ok hexec
            obtain ⟨own, w', hown, hfound⟩ := exec_bind_eq_ok hexec
            obtain rfl : w' = w := state_of_exec_draft hown
            have hv : v.Has id b d := (Keeps.untouched.newBuilder .query).of_exec hnew _ _ h
            have hw : w'.Has id b d := (Keeps.untouched.callOn _ _).of_exec hcall _ _ hv
            cases hany : (entries.keys own).any fun k => k.same key with
            | true =>
                rw [if_pos hany] at hfound
                cases hfound
                exact .here hentry (.group hcallable ⟨s, v, _, scratch, own, hnew, hcall, hown, hany⟩)
            | false =>
                rw [if_neg (Bool.eq_false_iff.1 hany)] at hfound
                exact hrest hw hfound

/-! ### What is dropped -/

/-- What is left of a list for a new entry with the key: all of it, or all but the first entry that gives way. -/
inductive Clears (entries : EntryList α) (env : Surroundings) (key : Value) (xs : List α) : List α → Prop where
  | whole (h : ∀ y ∈ xs, (entries.key y).same key = false) : Clears entries env key xs xs
  | without {front back : List α} {x : α} (hxs : xs = front ++ x :: back)
      (hfront : ∀ y ∈ front, (entries.key y).same key = false) (hx : entries.Yields env key x) :
      Clears entries env key xs (front ++ back)

theorem Clears.widen {R : Session → Session → Prop} {xs ys : List α} (h : entries.Clears (env.within R) key xs ys) :
    entries.Clears env key xs ys := by
  cases h with
  | whole h => exact .whole h
  | without hxs hfront hx => exact .without hxs hfront hx.widen

theorem Finds.clears_of_none {xs : List α} (h : entries.Finds env key xs 0 none) : entries.Clears env key xs xs := by
  refine .whole fun y hy => ?_
  obtain ⟨i, hi⟩ := List.getElem?_of_mem hy
  exact h.passed i y (Nat.zero_le i) (fun _ hj => by cases hj) hi

theorem Finds.clears_of_some {xs : List α} {place : Nat} (h : entries.Finds env key xs 0 (some place)) :
    entries.Clears env key xs (xs.eraseIdx place) := by
  obtain ⟨-, x, hx, hyields⟩ := h.yields place rfl
  obtain ⟨hplace, rfl⟩ := List.getElem?_eq_some_iff.1 hx
  rw [List.eraseIdx_eq_take_drop_succ]
  refine .without (by rw [← List.drop_eq_getElem_cons hplace, List.take_append_drop]) (fun y hy => ?_) hyields
  obtain ⟨i, hi, rfl⟩ := List.mem_take_iff_getElem.1 hy
  obtain ⟨hi, hlength⟩ := lt_min_iff.1 hi
  refine h.passed i _ (Nat.zero_le i) (fun j hj => ?_) (List.getElem?_eq_getElem hlength)
  cases hj
  exact hi

theorem listed_set (law : entries.Lawful) (xs : Option (List α)) (d : Draft) :
    entries.listed (entries.set xs d) = xs.getD [] := by
  unfold listed
  rw [law.get_set]

/-- The draft without the entry at a place. -/
def without (entries : EntryList α) (place : Nat) (d : Draft) : Draft :=
  entries.set ((entries.get d).map fun xs => xs.eraseIdx place) d

theorem listed_without (law : entries.Lawful) (place : Nat) (d : Draft) :
    entries.listed (entries.without place d) = (entries.listed d).eraseIdx place := by
  rw [without, listed_set law]
  unfold listed
  cases entries.get d <;> rfl

theorem exec_dropAt (h : s.Has id b d) {place : Nat} (hplace : place < (entries.listed d).length) :
    (entries.dropAt b.draft place).exec env s =
      (.ok (), { s with drafts := s.drafts.modify b.draft (entries.without place) }) := by
  unfold dropAt
  rw [exec_bind_ok h.exec_draftAt, keys_eq, List.length_map, if_neg (Nat.not_le.2 hplace)]
  rfl

theorem exec_dropReplaced (h : s.Has id b d) (hoverwriting : b.overwriting.isTruthy = true) :
    (entries.dropReplaced id key).exec env s = (do
      if let some place ← entries.placeFrom b.draft key ((entries.listed d).length + Resolve.maxEntries) 0 then
        entries.dropAt b.draft place : Act Unit).exec env s := by
  have hlength : (entries.keys d).length = (entries.listed d).length := List.length_map _
  unfold dropReplaced
  rw [exec_bind_ok h.exec_builder, if_pos hoverwriting, exec_bind_ok (exec_draftOf h.builder),
    exec_bind_ok h.exec_draftAt]
  exact hlength ▸ rfl

/-- The builder stays as it is if the search fails. Otherwise one entry at most is dropped. -/
theorem dropReplaced_cases [env.Keeps (Untouched id)] (law : entries.Lawful) (h : s.Has id b d)
    (hoverwriting : b.overwriting.isTruthy = true) {outcome : Except Fault Unit}
    (hexec : (entries.dropReplaced id key).exec env s = (outcome, t)) :
    (∃ fault, outcome = .error fault) ∧ t.Has id b d ∨
      outcome = .ok () ∧ ∃ d', t.Has id b d' ∧ entries.Clears env key (entries.listed d) (entries.listed d') ∧
        ∀ xs, entries.set xs d' = entries.set xs d := by
  rw [exec_dropReplaced h hoverwriting, exec_bind] at hexec
  rcases hsearch : (entries.placeFrom b.draft key ((entries.listed d).length + Resolve.maxEntries) 0).exec env s with
    ⟨found, u⟩
  have hu : u.Has id b d := (Keeps.untouched.placeFrom _ _ _ _ _).of_exec hsearch _ _ h
  rw [hsearch] at hexec
  cases found with
  | error fault =>
      cases hexec
      exact .inl ⟨⟨fault, rfl⟩, hu⟩
  | ok found =>
      have hfinds := finds_of_exec h hsearch
      refine .inr ?_
      cases found with
      | none =>
          cases hexec
          exact ⟨rfl, d, hu, hfinds.clears_of_none, fun _ => rfl⟩
      | some place =>
          obtain ⟨-, x, hx, -⟩ := hfinds.yields place rfl
          dsimp only at hexec
          rw [exec_dropAt hu (List.getElem?_eq_some_iff.1 hx).1] at hexec
          cases hexec
          refine ⟨rfl, _, hu.modify _, ?_, fun xs => law.set_set _ _ _⟩
          rw [listed_without law]
          exact hfinds.clears_of_some

/-- The new entry stands at the end. -/
theorem exec_push (entries : EntryList α) (env : Surroundings) (h : s.Has id b d) (x : α) :
    ∃ t, (entries.push id x).exec env s = (.ok (), t) ∧ t.Has id b (entries.set (some (entries.listed d ++ [x])) d) :=
  ⟨_, exec_modifyDraft h.builder _, h.modify fun d => entries.set (extended (entries.get d) [x]) d⟩

/-- A new entry comes in, or the builder stays as it is. -/
theorem replace_cases [env.Keeps (Untouched id)] (law : entries.Lawful) (h : s.Has id b d)
    (hoverwriting : b.overwriting.isTruthy = true) {x : α} {outcome : Except Fault Unit}
    (hexec : (do entries.dropReplaced id key; entries.push id x : Act Unit).exec env s = (outcome, t)) :
    (∃ fault, outcome = .error fault) ∧ t.Has id b d ∨
      outcome = .ok () ∧ ∃ xs, entries.Clears env key (entries.listed d) xs ∧
        t.Has id b (entries.set (some (xs ++ [x])) d) := by
  rw [exec_bind] at hexec
  rcases hdrop : (entries.dropReplaced id key).exec env s with ⟨outcome', u⟩
  rw [hdrop] at hexec
  rcases dropReplaced_cases law h hoverwriting hdrop with ⟨⟨fault, rfl⟩, hu⟩ | ⟨rfl, d', hu, hclears, hset⟩
  · cases hexec
    exact .inl ⟨⟨fault, rfl⟩, hu⟩
  · obtain ⟨w, hpush, hw⟩ := exec_push entries env hu x
    cases hpush.symm.trans hexec
    exact .inr ⟨rfl, _, hclears, hset _ ▸ hw⟩

end Declare.EntryList

def Session.overwritten (scripts : Array Script) : Session :=
  { Session.ofDraft .mysql (.over (.text "people")) with
    overwriting := true
    builders := #[⟨.query, 0, none, .bool true, .null, none⟩]
    scripts }

end SqlBuilder
