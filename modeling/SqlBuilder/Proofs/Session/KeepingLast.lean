import Mathlib.Data.List.Induction
import SqlBuilder.Proofs.Session.Replacing

/-!
Entries that take the place of each other. If each new one drops the first entry with its key, those are kept that no
later one has the key of, in the order in which they came. Where no entry can be called the search for that entry runs
no script and always comes to an end.
-/

namespace SqlBuilder

open Act Session

variable {env : Surroundings} {s t u : Session} {id : Nat} {b : Builder} {d : Draft}

namespace Declare.EntryList

variable {α : Type} {entries : EntryList α} {key : Value}

/-! ### The last entries -/

/-- The entries that no later one has the key of. -/
def latest (entries : EntryList α) : List α → List α
  | [] => []
  | x :: rest => if rest.any fun y => (entries.key y).same (entries.key x) then latest entries rest
    else x :: latest entries rest

/-- The entries with one more at the end, in place of the first one with its key or behind all of them. -/
def accepted (entries : EntryList α) (isOverwriting : Bool) (xs : List α) (x : α) : List α :=
  (if isOverwriting then xs.eraseP fun y => (entries.key y).same (entries.key x) else xs) ++ [x]

/-- The entries with more of them, one after the other. -/
def settled (entries : EntryList α) (isOverwriting : Bool) (xs more : List α) : List α :=
  more.foldl (entries.accepted isOverwriting) xs

def kept (entries : EntryList α) (isOverwriting : Bool) (xs : List α) : List α :=
  if isOverwriting then entries.latest xs else xs

variable {x : α} {xs ys : List α}

theorem latest_subset : entries.latest xs ⊆ xs := by
  induction xs with
  | nil => exact List.Subset.refl _
  | cons x rest ih =>
      rw [latest]
      split
      · exact List.subset_cons_of_subset x ih
      · exact List.cons_subset_cons x ih

/-- An entry that comes in at the end takes the place of the one with its key. -/
theorem latest_append_singleton (hxs : ∀ y ∈ xs, (entries.key y).Fair) (hx : (entries.key x).Fair) :
    entries.latest (xs ++ [x]) =
      (entries.latest xs).eraseP (fun y => (entries.key y).same (entries.key x)) ++ [x] := by
  induction xs with
  | nil => rfl
  | cons y rest ih =>
      obtain ⟨hy, hrest⟩ := List.forall_mem_cons.1 hxs
      rw [List.cons_append, latest, latest, List.any_append, List.any_cons, List.any_nil, Bool.or_false]
      cases hlater : rest.any fun z => (entries.key z).same (entries.key y) with
      | true =>
          rw [Bool.true_or, if_pos rfl, if_pos rfl]
          exact ih hrest
      | false =>
          rw [Bool.false_or, if_neg Bool.false_ne_true]
          cases hsame : (entries.key x).same (entries.key y) with
          | true =>
              -- no entry behind this one has its key, which is that of the new one
              have hyx : (entries.key y).same (entries.key x) = true := hx.symm _ hsame
              rw [if_pos rfl, ih hrest, List.eraseP_cons, hyx, cond_true, List.eraseP_of_forall_not]
              intro z hz hzx
              have hzy : (entries.key z).same (entries.key y) = true :=
                (hrest z (latest_subset hz)).trans _ _ hzx hsame
              exact List.any_eq_false.1 hlater z (latest_subset hz) hzy
          | false =>
              have hyx : (entries.key y).same (entries.key x) = false :=
                Bool.eq_false_iff.2 fun h => Bool.eq_false_iff.1 hsame (hy.symm _ h)
              rw [if_neg Bool.false_ne_true, ih hrest, List.eraseP_cons, hyx, cond_false, List.cons_append]

theorem settled_append (isOverwriting : Bool) (xs more more' : List α) :
    entries.settled isOverwriting xs (more ++ more') =
      entries.settled isOverwriting (entries.settled isOverwriting xs more) more' := List.foldl_append

/-- What is settled one by one is what is kept of the whole. -/
theorem settled_nil (isOverwriting : Bool) (hxs : ∀ y ∈ xs, (entries.key y).Fair) :
    entries.settled isOverwriting [] xs = entries.kept isOverwriting xs := by
  unfold kept
  induction xs using List.reverseRecOn with
  | nil => cases isOverwriting <;> rfl
  | append_singleton xs x ih =>
      have hfront : ∀ y ∈ xs, (entries.key y).Fair := fun y hy => hxs y (List.mem_append_left _ hy)
      have hx : (entries.key x).Fair := hxs x (List.mem_append_right _ (List.mem_singleton_self x))
      rw [settled_append, ih hfront]
      cases isOverwriting with
      | false => rfl
      | true => exact (latest_append_singleton hfront hx).symm

theorem accepted_subset {isOverwriting : Bool} : entries.accepted isOverwriting xs x ⊆ xs ++ [x] := by
  cases isOverwriting with
  | false => exact List.Subset.refl _
  | true => exact (List.Sublist.append_right List.eraseP_sublist [x]).subset

theorem settled_subset {isOverwriting : Bool} {more : List α} : entries.settled isOverwriting xs more ⊆ xs ++ more := by
  induction more generalizing xs with
  | nil => exact (List.append_nil xs).symm ▸ List.Subset.refl _
  | cons x rest ih =>
      intro y hy
      rw [List.append_cons]
      rcases List.mem_append.1 (ih hy) with hy | hy
      · exact List.mem_append_left _ (accepted_subset hy)
      · exact List.mem_append_right _ hy

/-! ### Entries that cannot be called -/

/-- No script runs on the search. -/
theorem exec_placeFrom_plain (h : s.Has id b d) (hplain : ∀ x ∈ entries.listed d, (entries.key x).isCallable = false)
    {fuel place : Nat} (hplace : place ≤ (entries.listed d).length)
    (hfuel : (entries.listed d).length < place + fuel) :
    (entries.placeFrom b.draft key fuel place).exec env s =
      (.ok ((((entries.listed d).drop place).findIdx? fun x => (entries.key x).same key).map (· + place)), s) := by
  induction fuel generalizing place with
  | zero => exact absurd hfuel (Nat.not_lt.2 hplace)
  | succ fuel ih =>
      rw [placeFrom, exec_bind_ok h.exec_draftAt, keys_eq, List.getElem?_map]
      rcases hentry : (entries.listed d)[place]? with _ | x
      · rw [List.drop_eq_nil_of_le (List.getElem?_eq_none_iff.1 hentry)]
        rfl
      · obtain ⟨hplace, rfl⟩ := List.getElem?_eq_some_iff.1 hentry
        rw [List.drop_eq_getElem_cons hplace, List.findIdx?_cons, Option.map_some]
        simp only [hplain _ (List.getElem_mem hplace), Bool.false_eq_true, if_false]
        cases hsame : (entries.key (entries.listed d)[place]).same key with
        | true =>
            rw [if_pos rfl, if_pos rfl, Option.map_some, Nat.zero_add]
            rfl
        | false =>
            rw [if_neg Bool.false_ne_true, if_neg Bool.false_ne_true, ih hplace (by omega), Option.map_map]
            have hshift : (fun i => i + (place + 1)) = (fun i => i + place) ∘ fun i => i + 1 :=
              funext fun i => by simp only [Function.comp_apply]; omega
            rw [hshift]

/-- The list without the first entry that the new one takes the place of, if the builder overwrites. -/
theorem exec_dropReplaced_plain (env : Surroundings) (law : entries.Lawful) (h : s.Has id b d)
    (hplain : ∀ x ∈ entries.listed d, (entries.key x).isCallable = false) (x : α) :
    ∃ t d', (entries.dropReplaced id (entries.key x)).exec env s = (.ok (), t) ∧ t.Has id b d' ∧
      entries.listed d' ++ [x] = entries.accepted b.overwriting.isTruthy (entries.listed d) x ∧
        (∀ xs, entries.set xs d' = entries.set xs d) ∧ SparedBut b.draft s t := by
  unfold accepted
  cases hoverwriting : b.overwriting.isTruthy with
  | false =>
      refine ⟨s, d, ?_, h, rfl, fun _ => rfl, .refl _ s⟩
      unfold dropReplaced
      rw [exec_bind_ok h.exec_builder, if_neg (Bool.eq_false_iff.1 hoverwriting)]
      rfl
  | true =>
      have hfuel : (entries.listed d).length < 0 + ((entries.listed d).length + Resolve.maxEntries) := by
        unfold Resolve.maxEntries
        omega
      rw [exec_dropReplaced h hoverwriting, exec_bind_ok (exec_placeFrom_plain h hplain (Nat.zero_le _) hfuel),
        if_pos rfl, List.eraseP_eq_eraseIdx, List.drop_zero]
      cases hfound : (entries.listed d).findIdx? fun y => (entries.key y).same (entries.key x) with
      | none => exact ⟨s, d, rfl, h, rfl, fun _ => rfl, .refl _ s⟩
      | some place =>
          refine ⟨_, _, exec_dropAt h (List.findIdx?_eq_some_iff_getElem.1 hfound).1, h.modify _, ?_,
            fun _ => law.set_set _ _ _, .modify _ _ _⟩
          rw [listed_without law]
          rfl

theorem exec_replace_plain (env : Surroundings) (law : entries.Lawful) (h : s.Has id b d)
    (hplain : ∀ x ∈ entries.listed d, (entries.key x).isCallable = false) (x : α) :
    ∃ t, (do entries.dropReplaced id (entries.key x); entries.push id x : Act Unit).exec env s = (.ok (), t) ∧
      t.Has id b (entries.set (some (entries.accepted b.overwriting.isTruthy (entries.listed d) x)) d) ∧
        SparedBut b.draft s t := by
  obtain ⟨t, d', hdrop, ht, haccepted, hset, hspared⟩ := exec_dropReplaced_plain env law h hplain x
  have hpush : (entries.push id x).exec env t = _ := exec_modifyDraft ht.builder _
  have hu := ht.modify fun d => entries.set (extended (entries.get d) [x]) d
  change Has _ id b (entries.set (some (entries.listed d' ++ [x])) d') at hu
  rw [hset, haccepted] at hu
  exact ⟨_, (exec_bind_ok hdrop).trans hpush, hu, hspared.trans (.modify _ _ _)⟩

end Declare.EntryList

end SqlBuilder
