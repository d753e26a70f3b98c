import SqlBuilder.Proofs.Session.KeepingLast
import SqlBuilder.Proofs.Session.Selecting

/-!
A change of one draft. Every builder that was there before is as it was, with the new draft if it uses that one. What a
new entry takes the place of has its key, or can be called.
-/

namespace SqlBuilder

open Act Session Declare

variable {α : Type} {env : Surroundings} {s t u : Session} {size n id k : Nat} {b own : Builder} {d d' d'' : Draft}

/-- The first builders are as before, but the draft with that number is another one. -/
def Session.Redrafted (size n : Nat) (d' : Draft) (s t : Session) : Prop :=
  ∀ k < size, ∀ b d, s.Has k b d → t.Has k b (if b.draft = n then d' else d)

namespace Session.Redrafted

theorem has (h : Redrafted size b.draft d' s t) (hid : id < size) (hs : s.Has id b d) : t.Has id b d' := by
  have ht := h id hid b d hs
  rwa [if_pos rfl] at ht

/-- Another builder has its own draft. -/
theorem other (h : Redrafted size n d' s t) (hk : k < size) (hn : own.draft ≠ n) (hown : s.Has k own d) :
    t.Has k own d := by
  have ht := h k hk own d hown
  rwa [if_neg hn] at ht

theorem of_untouched (h : UntouchedBelow size s t) (hs : s.Has id b d) : Redrafted size b.draft d s t := by
  intro k hk own d' hown
  have ht := h k hk own d' hown
  split
  · rename_i hdraft
    have hsame : s.drafts[own.draft]? = some d := hdraft ▸ hs.draft
    cases hown.draft.symm.trans hsame
    exact ht
  · exact ht

theorem trans (h : Redrafted size n d s t) (h' : Redrafted size n d' t u) : Redrafted size n d' s u := by
  intro k hk own d'' hown
  have hu := h' k hk own _ (h k hk own d'' hown)
  by_cases hdraft : own.draft = n
  · rw [if_pos hdraft] at hu ⊢
    exact hu
  · rw [if_neg hdraft, if_neg hdraft] at hu
    rwa [if_neg hdraft]

theorem mono (h : Redrafted size n d s t) {least : Nat} (hle : least ≤ size) : Redrafted least n d s t :=
  fun k hk => h k (Nat.lt_of_lt_of_le hk hle)

theorem modify (size : Nat) (hs : s.Has id b d) (f : Draft → Draft) :
    Redrafted size b.draft (f d) s { s with drafts := s.drafts.modify b.draft f } := by
  intro k _ own d' hown
  by_cases hdraft : own.draft = b.draft
  · have hsame : s.drafts[own.draft]? = some d := hdraft ▸ hs.draft
    cases hown.draft.symm.trans hsame
    rw [if_pos hdraft]
    exact ⟨hown.builder, by rw [hdraft]; exact (hs.modify f).draft⟩
  · rw [if_neg hdraft]
    exact SparedBut.modify _ s f k own d' hdraft hown

end Session.Redrafted

theorem Act.Unscripted.modifyDraft (id : Nat) (f : Draft → Draft) : Unscripted (Act.modifyDraft id f) :=
  .bind (.bind (.builder _) fun _ => .pure _) fun _ _ _ _ => rfl

namespace Declare.EntryList

variable {entries : EntryList α} {key : Value}

/-- Nothing is dropped but, where a builder overwrites, what has the key or can be called. -/
def Spares (entries : EntryList α) (isOverwriting : Bool) (key : Value) (xs ys : List α) : Prop :=
  ∀ x ∈ xs, x ∈ ys ∨ isOverwriting = true ∧ ((entries.key x).same key = true ∨ (entries.key x).isCallable = true)

theorem Spares.mem {isOverwriting : Bool} {xs ys : List α} (h : entries.Spares isOverwriting key xs ys)
    (hoverwriting : isOverwriting = false) : xs ⊆ ys := by
  intro x hx
  rcases h x hx with hmem | ⟨hother, -⟩
  · exact hmem
  · rw [hoverwriting] at hother
    cases hother

theorem Clears.spares {xs ys : List α} (h : entries.Clears env key xs ys) : entries.Spares true key xs ys := by
  intro x hx
  cases h with
  | whole => exact .inl hx
  | @without front back y heq _ hy =>
      subst heq
      rcases List.mem_append.1 hx with hx | hx
      · exact .inl (List.mem_append_left _ hx)
      · rcases List.mem_cons.1 hx with rfl | hx
        · cases hy with
          | same hsame => exact .inr ⟨rfl, .inl hsame⟩
          | group hcallable => exact .inr ⟨rfl, .inr hcallable⟩
        · exact .inl (List.mem_append_right _ hx)

/-- The search for an entry to drop changes no draft but the one of its builder. -/
theorem dropReplaced_redrafted [env.Keeps (UntouchedBelow size)] (h : s.Has id b d) (hid : id < size)
    (hoverwriting : b.overwriting.isTruthy = true)
    (hexec : (entries.dropReplaced id key).exec env s = (.ok (), t)) : ∃ d', Redrafted size b.draft d' s t := by
  rw [exec_dropReplaced h hoverwriting] at hexec
  obtain ⟨found, u, hsearch, hexec⟩ := exec_bind_eq_ok hexec
  have hu : UntouchedBelow size s u := (Keeps.untouchedBelow.placeFrom _ _ _ _ _).of_exec hsearch
  have hhas : u.Has id b d := hu id hid b d h
  have hsu : Redrafted size b.draft d s u := .of_untouched hu h
  cases found with
  | none =>
      cases hexec
      exact ⟨d, hsu⟩
  | some place =>
      dsimp only [dropAt] at hexec
      rw [exec_bind_ok hhas.exec_draftAt] at hexec
      split at hexec
      · cases hexec
      · cases hexec
        exact ⟨_, hsu.trans (.modify size hhas _)⟩

theorem dropReplaced_eq_ok [env.Keeps (UntouchedBelow size)] (law : entries.Lawful) (h : s.Has id b d) (hid : id < size)
    (hexec : (entries.dropReplaced id key).exec env s = (.ok (), t)) :
    ∃ d', Redrafted size b.draft d' s t ∧ (∀ xs, entries.set xs d' = entries.set xs d) ∧
      entries.Spares b.overwriting.isTruthy key (entries.listed d) (entries.listed d') := by
  cases hoverwriting : b.overwriting.isTruthy with
  | false =>
      unfold dropReplaced at hexec
      rw [exec_bind_ok h.exec_builder, if_neg (Bool.eq_false_iff.1 hoverwriting)] at hexec
      cases hexec
      exact ⟨d, .of_untouched (refl_of _ s) h, fun _ => rfl, fun x hx => .inl hx⟩
  | true =>
      have : env.Keeps (Untouched id) := {
        fill := fun script target s => Surroundings.Keeps.fill (R := UntouchedBelow size) script target s id hid
        notify := fun name script call s =>
          Surroundings.Keeps.notify (R := UntouchedBelow size) name script call s id hid }
      obtain ⟨d', hd'⟩ := dropReplaced_redrafted h hid hoverwriting hexec
      rcases dropReplaced_cases law h hoverwriting hexec with ⟨⟨fault, hfault⟩, -⟩ | ⟨-, d'', ht, hclears, hset⟩
      · cases hfault
      · have hsame := (hd'.has hid h).draft
        rw [ht.draft] at hsame
        cases hsame
        exact ⟨d', hd', hset, hclears.spares⟩

/-- A new entry comes in behind the others. -/
theorem replace_eq_ok [env.Keeps (UntouchedBelow size)] (law : entries.Lawful) (h : s.Has id b d) (hid : id < size)
    {x : α} (hexec : (do entries.dropReplaced id key; entries.push id x : Act Unit).exec env s = (.ok (), t)) :
    ∃ xs, entries.Spares b.overwriting.isTruthy key (entries.listed d) xs ∧
      Redrafted size b.draft (entries.set (some (xs ++ [x])) d) s t := by
  obtain ⟨⟨⟩, u, hdrop, hpush⟩ := exec_bind_eq_ok hexec
  obtain ⟨d', hd', hset, hspares⟩ := dropReplaced_eq_ok law h hid hdrop
  have hu : u.Has id b d' := hd'.has hid h
  have hpushed : (entries.push id x).exec env u = _ := exec_modifyDraft hu.builder _
  cases hpushed.symm.trans hpush
  refine ⟨entries.listed d', hspares, ?_⟩
  have ht := hd'.trans (.modify size hu fun d => entries.set (extended (entries.get d) [x]) d)
  rwa [hset] at ht

/-- Where no entry can be called no script runs on the search. -/
theorem exec_dropReplaced_scriptless (entries : EntryList α) (env : Surroundings) (h : s.Has id b d)
    (hplain : b.overwriting.isTruthy = true → ∀ x ∈ entries.listed d, (entries.key x).isCallable = false)
    (key : Value) :
    (entries.dropReplaced id key).exec env s = (entries.dropReplaced id key).exec (.scriptless 0) s := by
  cases hoverwriting : b.overwriting.isTruthy with
  | false =>
      unfold dropReplaced
      rw [exec_bind_ok h.exec_builder, exec_bind_ok h.exec_builder, if_neg (Bool.eq_false_iff.1 hoverwriting)]
      rfl
  | true =>
      have hfuel : (entries.listed d).length < 0 + ((entries.listed d).length + Resolve.maxEntries) := by
        unfold Resolve.maxEntries
        omega
      rw [hoverwriting] at hplain
      rw [exec_dropReplaced h hoverwriting, exec_dropReplaced h hoverwriting,
        exec_bind_ok (exec_placeFrom_plain h (hplain rfl) (Nat.zero_le _) hfuel),
        exec_bind_ok (exec_placeFrom_plain h (hplain rfl) (Nat.zero_le _) hfuel)]
      split
      · unfold dropAt
        rw [exec_bind_ok h.exec_draftAt, exec_bind_ok h.exec_draftAt]
        split <;> rfl
      · rfl

end Declare.EntryList

end SqlBuilder
