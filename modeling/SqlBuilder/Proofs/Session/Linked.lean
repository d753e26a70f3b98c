import SqlBuilder.Proofs.Session.Run

/-!
The references of a session: builders have drafts, and drafts refer to the builders of joins and unions.
-/

namespace SqlBuilder.Session

variable {s t : Session} {k : Nat}

/-- Whatever the builders of the session refer to is there. -/
structure Linked (s : Session) : Prop where
  draft : ∀ (id : Nat) (b : Builder), s.builders[id]? = some b → b.draft < s.drafts.size
  join : ∀ (n : Nat) (d : Draft), s.drafts[n]? = some d → ∀ j ∈ d.joins.getD [], ∀ k, j.builder = some k →
    k < s.builders.size
  union : ∀ (n : Nat) (d : Draft), s.drafts[n]? = some d → ∀ u ∈ d.unions.getD [], u.builder < s.builders.size

def redirected (s : Session) (k n : Nat) : Session :=
  { s with builders := s.builders.modify k fun b => { b with draft := n } }

theorem redirected_same {b : Builder} (hb : s.builders[k]? = some b) (n : Nat) :
    (s.redirected k n).builders[k]? = some { b with draft := n } := by
  change (s.builders.modify k _)[k]? = _
  rw [Array.getElem?_modify, if_pos rfl, hb]
  rfl

theorem redirected_other {other : Nat} (h : k ≠ other) (n : Nat) :
    (s.redirected k n).builders[other]? = s.builders[other]? := by
  change (s.builders.modify k _)[other]? = _
  rw [Array.getElem?_modify, if_neg h]

namespace Linked

theorem of_eq (h : s.Linked) (hbuilders : t.builders = s.builders) (hdrafts : t.drafts = s.drafts) : t.Linked where
  draft id b hb := by
    rw [hdrafts]
    exact h.draft id b (hbuilders ▸ hb)
  join n d hd := by
    rw [hbuilders]
    exact h.join n d (hdrafts ▸ hd)
  union n d hd := by
    rw [hbuilders]
    exact h.union n d (hdrafts ▸ hd)

/-- A builder comes up, with a draft of its own. -/
theorem of_push (h : s.Linked) {d : Draft} {b : Builder} (hdraft : b.draft = s.drafts.size)
    (hjoin : ∀ j ∈ d.joins.getD [], ∀ k, j.builder = some k → k < s.builders.size)
    (hunion : ∀ u ∈ d.unions.getD [], u.builder < s.builders.size) :
    ({ s with drafts := s.drafts.push d, builders := s.builders.push b } : Session).Linked := by
  refine ⟨fun id b' hb' => ?_, fun n d' hd' j hj k hk => ?_, fun n d' hd' u hu => ?_⟩
  · change b'.draft < (s.drafts.push d).size
    rw [Array.size_push]
    obtain rfl | hb' := getElem?_push_eq_some hb'
    · rw [hdraft]
      exact Nat.lt_succ_self _
    · exact Nat.lt_succ_of_lt (h.draft id b' hb')
  · change k < (s.builders.push b).size
    rw [Array.size_push]
    obtain rfl | hd' := getElem?_push_eq_some hd'
    · exact Nat.lt_succ_of_lt (hjoin j hj k hk)
    · exact Nat.lt_succ_of_lt (h.join n d' hd' j hj k hk)
  · change u.builder < (s.builders.push b).size
    rw [Array.size_push]
    obtain rfl | hd' := getElem?_push_eq_some hd'
    · exact Nat.lt_succ_of_lt (hunion u hu)
    · exact Nat.lt_succ_of_lt (h.union n d' hd' u hu)

/-- A builder that keeps its draft is changed. -/
theorem modifyBuilder (h : s.Linked) (id : Nat) {f : Builder → Builder} (hf : ∀ b, (f b).draft = b.draft) :
    ({ s with builders := s.builders.modify id f } : Session).Linked := by
  have hsize : (s.builders.modify id f).size = s.builders.size := Array.size_modify
  refine ⟨fun id' b hb => ?_, fun n d hd j hj k hk => ?_, fun n d hd u hu => ?_⟩
  · obtain ⟨-, b', hb', rfl⟩ | ⟨-, hb⟩ := getElem?_modify_eq_some hb
    · rw [hf]
      exact h.draft id' b' hb'
    · exact h.draft id' b hb
  · exact hsize ▸ h.join n d hd j hj k hk
  · exact hsize ▸ h.union n d hd u hu

/-- A draft is changed. Whatever it refers to newly is there. -/
theorem modifyDraft (h : s.Linked) (n : Nat) {f : Draft → Draft}
    (hjoin : ∀ d, s.drafts[n]? = some d → ∀ j ∈ (f d).joins.getD [],
      j ∈ d.joins.getD [] ∨ ∀ k, j.builder = some k → k < s.builders.size)
    (hunion : ∀ d, s.drafts[n]? = some d → ∀ u ∈ (f d).unions.getD [],
      u ∈ d.unions.getD [] ∨ u.builder < s.builders.size) :
    ({ s with drafts := s.drafts.modify n f } : Session).Linked := by
  refine ⟨fun id b hb => ?_, fun m d hd j hj k hk => ?_, fun m d hd u hu => ?_⟩
  · change b.draft < (s.drafts.modify n f).size
    rw [Array.size_modify]
    exact h.draft id b hb
  · obtain ⟨rfl, d', hd', rfl⟩ | ⟨-, hd⟩ := getElem?_modify_eq_some hd
    · obtain hold | hnew := hjoin d' hd' j hj
      · exact h.join n d' hd' j hold k hk
      · exact hnew k hk
    · exact h.join m d hd j hj k hk
  · obtain ⟨rfl, d', hd', rfl⟩ | ⟨-, hd⟩ := getElem?_modify_eq_some hd
    · obtain hold | hnew := hunion d' hd' u hu
      · exact h.union n d' hd' u hold
      · exact hnew
    · exact h.union m d hd u hu

theorem redirected (h : s.Linked) (k : Nat) {n : Nat} (hn : n < s.drafts.size) : (s.redirected k n).Linked := by
  have hsize : (s.redirected k n).builders.size = s.builders.size := Array.size_modify
  refine ⟨fun id b hb => ?_, fun m d hd j hj k hk => ?_, fun m d hd u hu => ?_⟩
  · obtain ⟨-, b', -, rfl⟩ | ⟨-, hb⟩ := getElem?_modify_eq_some hb
    · exact hn
    · exact h.draft id b hb
  · rw [hsize]
    exact h.join m d hd j hj k hk
  · rw [hsize]
    exact h.union m d hd u hu

end Linked

end SqlBuilder.Session
