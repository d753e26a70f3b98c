import SqlBuilder.Proofs.Session.Knots

/-!
Calls that let a builder refer to another one. A union moves what its member is united with, so the graph of drafts may
get edges in two places at once. It gets a cycle exactly if the member is written with the draft that is united with it.
-/

namespace SqlBuilder

open Act Session

variable {env : Surroundings} {s t : Session} {id n m k : Nat}

namespace Session

/-- The draft is written with the other one, or is the same. -/
abbrev Gathers (s : Session) : Nat → Nat → Prop := Relation.ReflTransGen s.Enlists

/-! ### Unions -/

/-- The draft of the receiver has got one more union, and what the draft of the member was united with has gone. Where
the two are not the same, all of that has moved. -/
structure United (s t : Session) (receiver member : Nat) (union : DraftUnion) : Prop where
  builders : t.builders = s.builders
  drafts : t.drafts.size = s.drafts.size
  apart : ∀ n, n ≠ receiver → n ≠ member → t.unionsAt n = s.unionsAt n
  emptied : member ≠ receiver → t.unionsAt member = []
  gained : ∃ front, t.unionsAt receiver = front ++ [union] ∧
    (∀ u ∈ front, u ∈ s.unionsAt receiver ∨ u ∈ s.unionsAt member) ∧
    (member ≠ receiver → ∀ u ∈ s.unionsAt member, u ∈ front)

namespace United

variable {receiver member : Nat} {union : DraftUnion} {b : Builder} (h : United s t receiver member union)

include h

theorem enlists (hb : s.builders[union.builder]? = some b) (hdraft : b.draft = member) (hnm : t.Enlists n m) :
    s.Enlists n m ∨ n = receiver ∧ s.Gathers member m := by
  obtain ⟨u, hu, b', hb', rfl⟩ := hnm
  rw [h.builders] at hb'
  by_cases hreceiver : n = receiver
  · subst hreceiver
    obtain ⟨front, hgained, hfront, -⟩ := h.gained
    rw [hgained] at hu
    obtain hu | hu := List.mem_append.1 hu
    · obtain hown | hmoved := hfront u hu
      · exact .inl ⟨u, hown, b', hb', rfl⟩
      · exact .inr ⟨rfl, .single ⟨u, hmoved, b', hb', rfl⟩⟩
    · obtain rfl := List.mem_singleton.1 hu
      obtain rfl := Option.some.inj (hb.symm.trans hb')
      exact .inr ⟨rfl, hdraft ▸ .refl⟩
  · by_cases hmember : n = member
    · subst hmember
      rw [h.emptied hreceiver] at hu
      cases hu
    · rw [h.apart n hreceiver hmember] at hu
      exact .inl ⟨u, hu, b', hb', rfl⟩

/-- A member that is not written with the receiver ties no knot. -/
theorem orderly (hs : s.Orderly) (hb : s.builders[union.builder]? = some b) (hdraft : b.draft = member)
    (hopen : ¬ s.Gathers member receiver) : t.Orderly where
  draft id b' hb' := h.drafts ▸ hs.draft id b' (h.builders ▸ hb')
  union n u hu := by
    rw [h.builders]
    by_cases hreceiver : n = receiver
    · subst hreceiver
      obtain ⟨front, hgained, hfront, -⟩ := h.gained
      rw [hgained] at hu
      obtain hu | hu := List.mem_append.1 hu
      · exact (hfront u hu).elim (hs.union _ u) (hs.union _ u)
      · obtain rfl := List.mem_singleton.1 hu
        exact (Array.getElem?_eq_some_iff.1 hb).1
    · by_cases hmember : n = member
      · subst hmember
        rw [h.emptied hreceiver] at hu
        cases hu
      · rw [h.apart n hreceiver hmember] at hu
        exact hs.union n u hu
  knotless _ := acyclic_of_edges (fun _ _ => h.enlists hb hdraft) hs.knotless fun _ ha => ha ▸ hopen

/-- A member that is written with the receiver ties one. -/
theorem cycle (hs : s.Orderly) (hb : s.builders[union.builder]? = some b) (hdraft : b.draft = member)
    (hclosed : s.Gathers member receiver) : Relation.TransGen t.Enlists receiver receiver := by
  obtain ⟨front, hgained, -, hmoved⟩ := h.gained
  by_cases hsame : member = receiver
  · refine .single ⟨union, ?_, b, h.builders ▸ hb, hdraft.trans hsame⟩
    rw [hgained]
    exact List.mem_append_right _ (List.mem_singleton_self _)
  · obtain rfl | ⟨next, hnext, hpath⟩ := Relation.ReflTransGen.cases_head hclosed
    · exact absurd rfl hsame
    have hkept : ∀ x y, s.Enlists x y → (x = receiver ∨ x = member) ∨ t.Enlists x y := by
      rintro x y ⟨u, hu, b', hb', hy⟩
      by_cases hx : x = receiver ∨ x = member
      · exact .inl hx
      · obtain ⟨hreceiver, hmember⟩ := not_or.1 hx
        exact .inr ⟨u, (h.apart x hreceiver hmember).symm ▸ hu, b', h.builders ▸ hb', hy⟩
    -- the path from the next draft on cannot come by the member again
    obtain ⟨first, hfirst, hold, hnew⟩ := exists_first hkept hpath (.inl rfl)
    obtain rfl | rfl := hfirst
    · obtain ⟨u, hu, b', hb', hy⟩ := hnext
      refine .head' ⟨u, ?_, b', h.builders ▸ hb', hy⟩ hnew
      rw [hgained]
      exact List.mem_append_left _ (hmoved hsame u hu)
    · exact absurd (.head' hnext hold) (hs.knotless first)

end United

/-- The session where the receiver has got what the member was united with. -/
def moved (s : Session) (n m : Nat) : Session :=
  (s.redrafted n fun d => { d with unions := some (s.unionsAt m) }).redrafted m fun d => { d with unions := none }

def pushed (s : Session) (n : Nat) (union : DraftUnion) : Session :=
  s.redrafted n fun d => { d with unions := extended d.unions [union] }

theorem unionsAt_moved (hn : n < s.drafts.size) (hm : m < s.drafts.size) (k : Nat) : (s.moved n m).unionsAt k =
    if k = m then [] else if k = n then s.unionsAt m else s.unionsAt k := by
  have hsize : (s.redrafted n fun d => { d with unions := some (s.unionsAt m) }).drafts.size = s.drafts.size :=
    Array.size_modify
  unfold moved
  rw [Spreads.unionsAt_redrafted, Spreads.unionsAt_redrafted, hsize]
  by_cases hmember : k = m
  · subst hmember
    rw [if_pos ⟨rfl, hm⟩, if_pos rfl]
    rfl
  · rw [if_neg fun h : m = k ∧ _ => hmember h.1.symm, if_neg hmember]
    by_cases hreceiver : k = n
    · subst hreceiver
      rw [if_pos ⟨rfl, hn⟩, if_pos rfl]
      rfl
    · rw [if_neg fun h : n = k ∧ _ => hreceiver h.1.symm, if_neg hreceiver]

theorem unionsAt_pushed (hn : n < s.drafts.size) (union : DraftUnion) (k : Nat) : (s.pushed n union).unionsAt k =
    if k = n then s.unionsAt k ++ [union] else s.unionsAt k := by
  unfold pushed
  rw [Spreads.unionsAt_redrafted]
  by_cases hk : k = n
  · subst hk
    rw [if_pos ⟨rfl, hn⟩, if_pos rfl]
    rfl
  · rw [if_neg fun h : n = k ∧ _ => hk h.1.symm, if_neg hk]

theorem united_pushed (hn : n < s.drafts.size) (union : DraftUnion) (hempty : s.unionsAt m = []) :
    s.United (s.pushed n union) n m union := by
  refine ⟨rfl, Array.size_modify, fun k hk _ => ?_, fun hmember => ?_, s.unionsAt n, ?_, fun u hu => .inl hu, ?_⟩
  · rw [unionsAt_pushed hn, if_neg hk]
  · rw [unionsAt_pushed hn, if_neg hmember, hempty]
  · rw [unionsAt_pushed hn, if_pos rfl]
  · intro _ u hu
    rw [hempty] at hu
    cases hu

theorem united_moved (hn : n < s.drafts.size) (hm : m < s.drafts.size) (union : DraftUnion) :
    s.United ((s.moved n m).pushed n union) n m union := by
  have hsize : (s.moved n m).drafts.size = s.drafts.size := Array.size_modify.trans Array.size_modify
  have hread := fun k => unionsAt_pushed (s := s.moved n m) (hsize.symm ▸ hn) union k
  refine ⟨rfl, Array.size_modify.trans hsize, fun k hreceiver hmember => ?_, fun hmember => ?_,
    (s.moved n m).unionsAt n, ?_, fun u hu => ?_, fun hmember u hu => ?_⟩
  · rw [hread, if_neg hreceiver, unionsAt_moved hn hm, if_neg hmember, if_neg hreceiver]
  · rw [hread, if_neg hmember, unionsAt_moved hn hm, if_pos rfl]
  · rw [hread, if_pos rfl]
  · rw [unionsAt_moved hn hm] at hu
    split at hu
    · cases hu
    · rw [if_pos rfl] at hu
      exact .inr hu
  · rw [unionsAt_moved hn hm, if_neg hmember.symm, if_pos rfl]
    exact hu

/-- A union that fails changes nothing. -/
theorem declare_union_cases (env : Surroundings) (hs : s.Orderly) (id : Nat) (member kind : Value) :
    (∃ fault, (Declare.union id member kind).exec env s = (.error fault, s)) ∨
    ∃ role k name b b' t, member = .builder role k ∧ s.builders[id]? = some b ∧ s.builders[k]? = some b' ∧
      (Declare.union id member kind).exec env s = (.ok (), t) ∧ s.United t b.draft b'.draft ⟨name, k⟩ := by
  unfold Declare.union
  cases hkind : Declare.unionKind kind with
  | error fault => exact .inl ⟨fault, rfl⟩
  | ok name =>
      have hlift : (Act.lift (Except.ok name)).exec env s = (.ok name, s) := rfl
      rw [exec_bind_ok hlift]
      cases member with
      | builder role k =>
          dsimp only
          cases hb' : s.builders[k]? with
          | none => exact .inl ⟨.missingMember, exec_bind_error (exec_bind_error (exec_draftOf_of_none hb'))⟩
          | some b' =>
              have hread : (s.drafts[b'.draft]?.getD {}).unions.getD [] = s.unionsAt b'.draft := rfl
              rw [exec_bind_ok (exec_draft hb'), hread]
              cases hb : s.builders[id]? with
              | none =>
                  have hmodify : ∀ f, (Act.modifyDraft id f).exec env s = (.error .missingMember, s) := fun f =>
                    exec_bind_error (exec_draftOf_of_none hb)
                  refine .inl ⟨.missingMember, ?_⟩
                  split
                  · exact hmodify _
                  · exact exec_bind_error (hmodify _)
              | some b =>
                  have hn := hs.draft id b hb
                  by_cases hempty : s.unionsAt b'.draft = []
                  · refine .inr ⟨role, k, name, b, b', _, rfl, rfl, hb', ?_, united_pushed hn ⟨name, k⟩ hempty⟩
                    rw [hempty]
                    exact exec_modifyDraft hb _
                  · refine .inr ⟨role, k, name, b, b', _, rfl, rfl, hb', ?_,
                      united_moved hn (hs.draft k b' hb') ⟨name, k⟩⟩
                    rw [if_neg (by simpa using hempty), exec_bind_ok (exec_modifyDraft hb _)]
                    refine (exec_bind_ok (exec_modifyDraft (s := s.redrafted b.draft _) hb' _)).trans ?_
                    exact exec_modifyDraft (s := s.moved b.draft b'.draft) hb _
      | _ => exact .inl ⟨.missingMember, rfl⟩

/-! ### Drafts that are shared -/

theorem enlists_redirected (h : (s.redirected id m).Enlists n k) :
    s.Enlists n k ∨ (∃ u ∈ s.unionsAt n, u.builder = id) ∧ s.Gathers m k := by
  obtain ⟨u, hu, b, hb, rfl⟩ := h
  obtain ⟨rfl, b', -, rfl⟩ | ⟨-, hb⟩ := getElem?_modify_eq_some hb
  · exact .inr ⟨⟨u, hu, rfl⟩, .refl⟩
  · exact .inl ⟨u, hu, b, hb, rfl⟩

/-- A draft that is not written with the builder may be shared with it. -/
theorem Orderly.redirected (hs : s.Orderly) (hm : m < s.drafts.size)
    (hopen : ∀ n, (∃ u ∈ s.unionsAt n, u.builder = id) → ¬ s.Gathers m n) : (s.redirected id m).Orderly where
  draft k b hb := by
    obtain ⟨-, b', -, rfl⟩ | ⟨-, hb⟩ := getElem?_modify_eq_some hb
    · exact hm
    · exact hs.draft k b hb
  union n u hu := by
    change u.builder < (s.builders.modify id _).size
    rw [Array.size_modify]
    exact hs.union n u hu
  knotless _ := acyclic_of_edges (fun _ _ => enlists_redirected) hs.knotless hopen

/-- A draft that is written with the builder is written with itself when it is shared. -/
theorem cycle_redirected (hid : id < s.builders.size) (hn : ∃ u ∈ s.unionsAt n, u.builder = id)
    (hclosed : s.Gathers m n) : Relation.TransGen (s.redirected id m).Enlists m m := by
  have hkept : ∀ x y, s.Enlists x y → (∃ u ∈ s.unionsAt x, u.builder = id) ∨ (s.redirected id m).Enlists x y := by
    rintro x y ⟨u, hu, b, hb, hy⟩
    by_cases huid : u.builder = id
    · exact .inl ⟨u, hu, huid⟩
    · exact .inr ⟨u, hu, b, by rw [redirected_other (Ne.symm huid), hb], hy⟩
  obtain ⟨first, ⟨u, hu, rfl⟩, -, hpath⟩ := exists_first hkept hclosed hn
  exact .tail' hpath ⟨u, hu, _, redirected_same (Array.getElem?_eq_getElem hid) m, rfl⟩

theorem shareDraft_cases (env : Surroundings) (s : Session) (id : Nat) (other : Value) :
    (∃ fault, ((BuilderCall.shareDraft other).perform id).exec env s = (.error fault, s)) ∨
    ∃ role k b', other = .builder role k ∧ s.builders[k]? = some b' ∧
      ((BuilderCall.shareDraft other).perform id).exec env s =
        (Act.builderValue id).exec env (s.redirected id b'.draft) := by
  cases other with
  | builder role k =>
      cases hb' : s.builders[k]? with
      | none => exact .inl ⟨.missingMember, exec_bind_error (exec_bind_error (exec_draftOf_of_none hb'))⟩
      | some b' => exact .inr ⟨role, k, b', rfl, hb', exec_bind_ok (exec_bind_ok (exec_draftOf hb'))⟩
  | _ => exact .inl ⟨.missingMember, rfl⟩

end Session

/-! ### Calls that tie a knot -/

/-- The builder would be united with one that is written with its draft, or would share a draft that is written with
it. -/
def BuilderCall.Knots (s : Session) (id : Nat) : BuilderCall → Prop
  | .union (.builder _ k) _ => ∃ b b', s.builders[id]? = some b ∧ s.builders[k]? = some b' ∧
      s.Gathers b'.draft b.draft
  | .shareDraft (.builder _ k) => ∃ b', s.builders[k]? = some b' ∧
      ∃ n, (∃ u ∈ s.unionsAt n, u.builder = id) ∧ s.Gathers b'.draft n
  | _ => False

namespace Session

variable {c : BuilderCall} {v : Value}

/-- A builder may refer to another one wherever that ties no knot. -/
theorem Orderly.tie (hs : s.Orderly) (hties : c.Ties) (hopen : ¬ c.Knots s id) :
    ((c.perform id).exec env s).2.Orderly := by
  cases c with
  | union member kind =>
      obtain ⟨fault, hexec⟩ | ⟨role, k, name, b, b', t, rfl, hb, hb', hexec, hunited⟩ :=
        declare_union_cases env hs id member kind
      · have hcall : ((BuilderCall.union member kind).perform id).exec env s = (.error fault, s) :=
          exec_bind_error hexec
        rw [hcall]
        exact hs
      · have ht : t.Orderly := hunited.orderly hs hb' rfl fun hclosed => hopen ⟨b, b', hb, hb', hclosed⟩
        have hcall : ((BuilderCall.union (.builder role k) kind).perform id).exec env s =
            (Act.builderValue id).exec env t := exec_bind_ok hexec
        rw [hcall]
        exact Keeps.bind (R := KeepsOrder) (.builder id) (fun _ => .pure _) t ht
  | shareDraft other =>
      obtain ⟨fault, hexec⟩ | ⟨role, k, b', rfl, hb', hexec⟩ := shareDraft_cases env s id other
      · rw [hexec]
        exact hs
      · have ht : (s.redirected id b'.draft).Orderly := hs.redirected (hs.draft k b' hb') fun n hn hclosed =>
          hopen ⟨b', hb', n, hn, hclosed⟩
        rw [hexec]
        exact Keeps.bind (R := KeepsOrder) (.builder id) (fun _ => .pure _) _ ht
  | _ => exact hties.elim

/-- A call that ties no knot keeps the order, as long as the scripts that it runs do. -/
theorem Orderly.perform (hs : s.Orderly) (hopen : ¬ c.Knots s id)
    (hscripts : Confined KeepsOrder env (c.perform id) s) : ((c.perform id).exec env s).2.Orderly := by
  by_cases hties : c.Ties
  · exact hs.tie hties hopen
  · rw [← hscripts]
    exact BuilderCall.keeps_perform_untied (R := KeepsOrder) id hties s hs

/-- A call that ties a knot and succeeds leaves a builder whose draft is written with itself. -/
theorem Orderly.cycle_of_knots (hs : s.Orderly) (hknots : c.Knots s id) (h : (c.perform id).exec env s = (.ok v, t)) :
    ∃ b, t.builders[id]? = some b ∧ Relation.TransGen t.Enlists b.draft b.draft := by
  cases c with
  | union member kind =>
      obtain ⟨fault, hexec⟩ | ⟨role, k, name, b, b', u, rfl, hb, hb', hexec, hunited⟩ :=
        declare_union_cases env hs id member kind
      · cases (exec_bind_error hexec).symm.trans h
      · obtain ⟨b₁, b₁', hb₁, hb₁', hclosed⟩ := hknots
        obtain rfl := Option.some.inj (hb.symm.trans hb₁)
        obtain rfl := Option.some.inj (hb'.symm.trans hb₁')
        have hu : u.builders[id]? = some b := hunited.builders ▸ hb
        have hvalue : (Act.builderValue id).exec env u = (.ok (.builder b.role.kind id), u) :=
          exec_builderValue hu
        cases ((exec_bind_ok hexec).trans hvalue).symm.trans h
        exact ⟨b, hu, hunited.cycle hs hb' rfl hclosed⟩
  | shareDraft other =>
      obtain ⟨fault, hexec⟩ | ⟨role, k, b', rfl, hb', hexec⟩ := shareDraft_cases env s id other
      · cases hexec.symm.trans h
      · obtain ⟨b₁', hb₁', n, ⟨u, hu, rfl⟩, hclosed⟩ := hknots
        obtain rfl := Option.some.inj (hb'.symm.trans hb₁')
        have hid := hs.union n u hu
        have hmade := redirected_same (Array.getElem?_eq_getElem hid) b'.draft
        have hvalue : (Act.builderValue u.builder).exec env (s.redirected u.builder b'.draft) = (.ok _, _) :=
          exec_builderValue hmade
        cases (hexec.trans hvalue).symm.trans h
        exact ⟨_, hmade, cycle_redirected hid ⟨u, hu, rfl⟩ hclosed⟩
  | _ => exact hknots.elim

/-! ### Runs -/

/-- A run of calls on builders and on their connection, none of which ties a knot, and neither do the scripts that they
run. -/
inductive Weaving (env : Surroundings) (s : Session) : Session → Prop where
  | start : Weaving env s s
  | called {t : Session} (hrun : Weaving env s t) (id : Nat) (c : BuilderCall) (hopen : ¬ c.Knots t id)
      (hscripts : Confined KeepsOrder env (c.perform id) t) : Weaving env s ((c.perform id).exec env t).2
  | directed {t : Session} (hrun : Weaving env s t) (c : ConnectionCall)
      (hscripts : Confined KeepsOrder env c.perform t) : Weaving env s (c.perform.exec env t).2

/-- The run keeps the order. -/
theorem Weaving.orderly (h : Weaving env s t) (hs : s.Orderly) : t.Orderly := by
  induction h with
  | start => exact hs
  | called hrun id c hopen hscripts ih => exact ih.perform hopen hscripts
  | directed hrun c hscripts ih =>
      rw [← hscripts]
      exact ConnectionCall.keeps_perform (R := KeepsOrder) c _ ih

end Session

end SqlBuilder
