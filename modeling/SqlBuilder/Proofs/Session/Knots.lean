import SqlBuilder.Proofs.Session.Calling
import SqlBuilder.Proofs.Session.Callback
import SqlBuilder.Proofs.Session.Uniting
import SqlBuilder.Proofs.Session.Untouched

/-!
The graph of drafts that are united with each other. Members of unions are builders, which are written when the
statement is, so the graph must have no cycle. No call makes one unless it unites a builder with one that is written
with it, or lets it share a draft that is; and such a call always does.
-/

namespace SqlBuilder

open Act Session

/-! ### Graphs that get new edges -/

section Edges

open Relation

variable {α : Type} {r r' : α → α → Prop} {source : α → Prop} {a b x y : α}

/-- Where all new edges lead to what is behind one node, a path is an old one or comes by that node. -/
theorem transGen_of_edges (hedge : ∀ x y, r' x y → r x y ∨ source x ∧ ReflTransGen r b y) (h : TransGen r' x y) :
    TransGen r x y ∨ ∃ a, source a ∧ ReflTransGen r x a ∧ ReflTransGen r b y := by
  induction h with
  | single h =>
      obtain hold | ⟨hx, hb⟩ := hedge _ _ h
      · exact .inl (.single hold)
      · exact .inr ⟨x, hx, .refl, hb⟩
  | tail _ h ih =>
      obtain hold | ⟨hsource, hb⟩ := hedge _ _ h
      · obtain ih | ⟨a, ha, hfront, hback⟩ := ih
        · exact .inl (ih.tail hold)
        · exact .inr ⟨a, ha, hfront, hback.tail hold⟩
      · obtain ih | ⟨a, ha, hfront, -⟩ := ih
        · exact .inr ⟨_, hsource, ih.to_reflTransGen, hb⟩
        · exact .inr ⟨a, ha, hfront, hb⟩

/-- There is no new cycle if no path leads back from that node to where the new edges start. -/
theorem acyclic_of_edges (hedge : ∀ x y, r' x y → r x y ∨ source x ∧ ReflTransGen r b y)
    (hacyclic : ∀ x, ¬ TransGen r x x) (hback : ∀ a, source a → ¬ ReflTransGen r b a) : ¬ TransGen r' x x := by
  intro hcycle
  obtain hold | ⟨a, ha, hfront, hbehind⟩ := transGen_of_edges hedge hcycle
  · exact hacyclic x hold
  · exact hback a ha (hbehind.trans hfront)

/-- A path is kept up to the first node that may have lost edges. -/
theorem exists_first (hkept : ∀ x y, r x y → source x ∨ r' x y) (h : ReflTransGen r x a) (ha : source a) :
    ∃ first, source first ∧ ReflTransGen r x first ∧ ReflTransGen r' x first := by
  induction h using ReflTransGen.head_induction_on with
  | refl => exact ⟨a, ha, .refl, .refl⟩
  | head h _ ih =>
      obtain hx | hkept := hkept _ _ h
      · exact ⟨_, hx, .refl, .refl⟩
      · obtain ⟨first, hfirst, hold, hnew⟩ := ih
        exact ⟨first, hfirst, .head h hold, .head hkept hnew⟩

end Edges

/-! ### Drafts that are united -/

namespace Session

variable {s t u : Session} {id k n m : Nat}

def unionsAt (s : Session) (n : Nat) : List DraftUnion := (s.drafts[n]?.getD {}).unions.getD []

/-- The draft is united with a builder that uses the other one. -/
def Enlists (s : Session) (n m : Nat) : Prop :=
  ∃ u ∈ s.unionsAt n, ∃ b, s.builders[u.builder]? = some b ∧ b.draft = m

/-- No draft is united with a builder that uses it, be it by way of others. -/
def Knotless (s : Session) : Prop := ∀ n, ¬ Relation.TransGen s.Enlists n n

/-- What builders and unions refer to is there, and no draft is united with itself. -/
structure Orderly (s : Session) : Prop where
  draft : ∀ (id : Nat) (b : Builder), s.builders[id]? = some b → b.draft < s.drafts.size
  union : ∀ n, ∀ u ∈ s.unionsAt n, u.builder < s.builders.size
  knotless : s.Knotless

/-- An orderly session stays orderly. -/
def KeepsOrder (s t : Session) : Prop := s.Orderly → t.Orderly

instance : IsPreorder Session KeepsOrder where
  refl _ h := h
  trans _ _ _ hst htu h := htu (hst h)

theorem unionsAt_of_size_le (h : s.drafts.size ≤ n) : s.unionsAt n = [] := by
  unfold unionsAt
  rw [Array.getElem?_eq_none h]
  rfl

theorem Orderly.target_lt (h : s.Orderly) (hn : s.Enlists n m) : m < s.drafts.size := by
  obtain ⟨u, -, b, hb, rfl⟩ := hn
  exact h.draft _ _ hb

theorem Linked.orderly (h : s.Linked) (hknotless : s.Knotless) : s.Orderly where
  draft := h.draft
  union n u hu := by
    unfold unionsAt at hu
    by_cases hn : n < s.drafts.size
    · have hd := Array.getElem?_eq_getElem hn
      rw [hd] at hu
      exact h.union n _ hd u hu
    · rw [Array.getElem?_eq_none (Nat.le_of_not_lt hn)] at hu
      cases hu
  knotless := hknotless

/-- Without unions there is no knot. -/
theorem knotless_of_unionsAt (h : ∀ n, s.unionsAt n = []) : s.Knotless := by
  intro n hcycle
  obtain ⟨_, ⟨u, hu, -⟩, -⟩ := Relation.TransGen.head'_iff.1 hcycle
  rw [h n] at hu
  cases hu

/-! ### Changes that unite nothing -/

/-- Builders keep their drafts and drafts their unions. What is new has the unions of a draft that was there, or
none. -/
structure Spreads (s t : Session) : Prop where
  builders : ∀ (id : Nat) (b : Builder), s.builders[id]? = some b →
    ∃ b' : Builder, t.builders[id]? = some b' ∧ b'.draft = b.draft
  fresh : ∀ (id : Nat) (b : Builder), t.builders[id]? = some b → id < s.builders.size ∨ b.draft < t.drafts.size
  drafts : s.drafts.size ≤ t.drafts.size
  kept : ∀ n < s.drafts.size, t.unionsAt n = s.unionsAt n
  unions : ∀ n, ∃ m, t.unionsAt n = s.unionsAt m

namespace Spreads

theorem lt (h : Spreads s t) (hid : id < s.builders.size) : id < t.builders.size := by
  obtain ⟨b, hb, -⟩ := h.builders id _ (Array.getElem?_eq_getElem hid)
  exact (Array.getElem?_eq_some_iff.1 hb).1

theorem of_eq (hbuilders : t.builders = s.builders) (hdrafts : t.drafts = s.drafts) : Spreads s t where
  builders _ b hb := ⟨b, hbuilders ▸ hb, rfl⟩
  fresh id b hb := .inl (Array.getElem?_eq_some_iff.1 (hbuilders ▸ hb)).1
  drafts := hdrafts ▸ le_refl _
  kept n _ := by
    unfold unionsAt
    rw [hdrafts]
  unions n := ⟨n, by
    unfold unionsAt
    rw [hdrafts]⟩

instance : IsPreorder Session Spreads where
  refl _ := of_eq rfl rfl
  trans s t u hst htu := by
    refine ⟨fun id b hb => ?_, fun id b hb => ?_, hst.drafts.trans htu.drafts, fun n hn => ?_, fun n => ?_⟩
    · obtain ⟨b', hb', hdraft⟩ := hst.builders id b hb
      obtain ⟨b'', hb'', hdraft'⟩ := htu.builders id b' hb'
      exact ⟨b'', hb'', hdraft'.trans hdraft⟩
    · obtain hid | hfresh := htu.fresh id b hb
      · obtain ⟨b', hb', hdraft⟩ := htu.builders id _ (Array.getElem?_eq_getElem hid)
        obtain rfl := Option.some.inj (hb'.symm.trans hb)
        refine (hst.fresh id _ (Array.getElem?_eq_getElem hid)).imp_right fun hlt => ?_
        exact hdraft ▸ hlt.trans_le htu.drafts
      · exact .inr hfresh
    · exact (htu.kept n (hn.trans_le hst.drafts)).trans (hst.kept n hn)
    · obtain ⟨m, hm⟩ := htu.unions n
      obtain ⟨m', hm'⟩ := hst.unions m
      exact ⟨m', hm.trans hm'⟩

/-- What is new is united with what was there, so no path leads to it. -/
theorem transGen (h : Spreads s t) (hs : s.Orderly) (hn : n < s.drafts.size) (hpath : Relation.TransGen t.Enlists n m) :
    Relation.TransGen s.Enlists n m := by
  have hedge : ∀ {x y}, x < s.drafts.size → t.Enlists x y → s.Enlists x y := by
    rintro x y hx ⟨u, hu, b, hb, rfl⟩
    rw [h.kept x hx] at hu
    obtain ⟨b', hb', hdraft⟩ := h.builders _ _ (Array.getElem?_eq_getElem (hs.union x u hu))
    obtain rfl := Option.some.inj (hb'.symm.trans hb)
    exact ⟨u, hu, _, Array.getElem?_eq_getElem (hs.union x u hu), hdraft.symm⟩
  induction hpath with
  | single hxy => exact .single (hedge hn hxy)
  | tail _ hxy ih =>
      obtain ⟨x, -, hx⟩ := Relation.TransGen.tail'_iff.1 ih
      exact ih.tail (hedge (hs.target_lt hx) hxy)

theorem keepsOrder (h : Spreads s t) : KeepsOrder s t := by
  intro hs
  have htarget : ∀ {x y}, t.Enlists x y → y < s.drafts.size := by
    rintro x y ⟨u, hu, b, hb, rfl⟩
    obtain ⟨m, hm⟩ := h.unions x
    rw [hm] at hu
    have hlt := hs.union m u hu
    obtain ⟨b', hb', hdraft⟩ := h.builders _ _ (Array.getElem?_eq_getElem hlt)
    obtain rfl := Option.some.inj (hb'.symm.trans hb)
    exact hdraft ▸ hs.draft _ _ (Array.getElem?_eq_getElem hlt)
  refine ⟨fun id b hb => ?_, fun n u hu => ?_, fun n hcycle => ?_⟩
  · obtain hid | hfresh := h.fresh id b hb
    · obtain ⟨b', hb', hdraft⟩ := h.builders id _ (Array.getElem?_eq_getElem hid)
      obtain rfl := Option.some.inj (hb'.symm.trans hb)
      exact hdraft ▸ (hs.draft id _ (Array.getElem?_eq_getElem hid)).trans_le h.drafts
    · exact hfresh
  · obtain ⟨m, hm⟩ := h.unions n
    exact h.lt (hs.union m u (hm ▸ hu))
  · obtain ⟨x, -, hx⟩ := Relation.TransGen.tail'_iff.1 hcycle
    exact hs.knotless n (h.transGen hs (htarget hx) hcycle)

theorem pushDraft (s : Session) {d : Draft} (hd : d.unions.getD [] = s.unionsAt m) :
    Spreads s { s with drafts := s.drafts.push d } where
  builders _ b hb := ⟨b, hb, rfl⟩
  fresh id b hb := .inl (Array.getElem?_eq_some_iff.1 hb).1
  drafts := by
    change s.drafts.size ≤ (s.drafts.push d).size
    rw [Array.size_push]
    exact Nat.le_succ _
  kept n hn := by
    unfold unionsAt
    rw [Array.getElem?_push_lt hn, Array.getElem?_eq_getElem hn]
  unions n := by
    unfold unionsAt
    by_cases hn : n = s.drafts.size
    · subst hn
      rw [Array.getElem?_push_size]
      exact ⟨m, hd⟩
    · refine ⟨n, ?_⟩
      rw [Array.getElem?_push, if_neg hn]

theorem pushBuilder (s : Session) {b : Builder} (hb : b.draft < s.drafts.size) :
    Spreads s { s with builders := s.builders.push b } where
  builders _ b' hb' := ⟨b', getElem?_push_of_some hb', rfl⟩
  fresh id b' hb' := by
    obtain rfl | hb' := getElem?_push_eq_some hb'
    · exact .inr hb
    · exact .inl (Array.getElem?_eq_some_iff.1 hb').1
  drafts := le_refl _
  kept _ _ := rfl
  unions n := ⟨n, rfl⟩

/-- A builder with a draft of its own. -/
theorem push (s : Session) {d : Draft} {b : Builder} (hd : d.unions.getD [] = s.unionsAt m)
    (hb : b.draft = s.drafts.size) : Spreads s { s with drafts := s.drafts.push d, builders := s.builders.push b } :=
  trans_of Spreads (pushDraft s hd) (pushBuilder _ (by
    change b.draft < (s.drafts.push d).size
    rw [hb, Array.size_push]
    exact Nat.lt_succ_self _))

theorem modifyBuilder (s : Session) (id : Nat) {f : Builder → Builder} (hf : ∀ b, (f b).draft = b.draft) :
    Spreads s { s with builders := s.builders.modify id f } where
  builders := (Footprint.Keeping.modifyBuilder s id hf).builders
  fresh id' b hb := by
    obtain ⟨hid, -⟩ := Array.getElem?_eq_some_iff.1 hb
    exact .inl (Array.size_modify.symm ▸ hid)
  drafts := le_refl _
  kept _ _ := rfl
  unions n := ⟨n, rfl⟩

theorem unionsAt_redrafted (s : Session) (n : Nat) (f : Draft → Draft) (m : Nat) :
    (s.redrafted n f).unionsAt m = if n = m ∧ m < s.drafts.size then (f (s.drafts[m]?.getD {})).unions.getD []
      else s.unionsAt m := by
  unfold unionsAt redrafted
  rw [Array.getElem?_modify]
  by_cases hm : m < s.drafts.size
  · rw [Array.getElem?_eq_getElem hm]
    by_cases hn : n = m
    · rw [if_pos hn, if_pos ⟨hn, hm⟩]
      rfl
    · rw [if_neg hn, if_neg fun h : n = m ∧ _ => hn h.1]
  · rw [Array.getElem?_eq_none (Nat.le_of_not_lt hm), if_neg fun h : _ ∧ m < s.drafts.size => hm h.2, Option.map_none,
      ite_self]

theorem redrafted (s : Session) {f : Draft → Draft}
    (hf : (f (s.drafts[n]?.getD {})).unions = (s.drafts[n]?.getD {}).unions) : Spreads s (s.redrafted n f) := by
  have hsame : ∀ m, (s.redrafted n f).unionsAt m = s.unionsAt m := by
    intro m
    rw [unionsAt_redrafted]
    split
    · rename_i hm
      rw [← hm.1, hf]
      rfl
    · rfl
  exact ⟨fun _ b hb => ⟨b, hb, rfl⟩, fun id b hb => .inl (Array.getElem?_eq_some_iff.1 hb).1, Array.size_modify.ge,
    fun m _ => hsame m, fun m => ⟨m, hsame m⟩⟩

/-- A builder that has come up may get another draft. -/
theorem redirected (h : Spreads s t) (hk : s.builders.size ≤ k) (hn : n < t.drafts.size) :
    Spreads s (t.redirected k n) where
  builders id b hb := by
    have hid := (Array.getElem?_eq_some_iff.1 hb).1
    rw [redirected_other (hid.trans_le hk).ne']
    exact h.builders id b hb
  fresh id b hb := by
    obtain ⟨-, b', -, rfl⟩ | ⟨-, hb⟩ := getElem?_modify_eq_some hb
    · exact .inr hn
    · exact h.fresh id b hb
  drafts := h.drafts
  kept := h.kept
  unions := h.unions

end Spreads

/-! ### Calls that unite nothing -/

section Keeps

variable {env : Surroundings}

theorem spreads_newBuilder (role : BuilderRole) : Keeps Spreads env (Act.newBuilder role) :=
  fun s => .push s (m := s.drafts.size) (unionsAt_of_size_le (le_refl _)).symm rfl

theorem spreads_modifyDraft (id : Nat) {f : Draft → Draft} (hf : ∀ d, (f d).unions = d.unions) :
    Keeps Spreads env (Act.modifyDraft id f) :=
  .bind (.bind (.builder _) fun _ => .pure _) fun _ s => .redrafted s (hf _)

/-- A copy is united with what its original is united with. -/
theorem spreads_clone (depth id : Nat) : Keeps Spreads env (Declare.clone depth id) := by
  induction depth generalizing id with
  | zero => exact .throw _
  | succ depth ih =>
      intro s
      unfold Declare.clone
      refine Keeps.bind_at (.builder id) fun b t hbuilder => ?_
      obtain ⟨hb, rfl⟩ := exec_builder_eq_ok hbuilder
      refine Keeps.bind_at (.draft id) fun d u hdraft => ?_
      cases (exec_draft hb).symm.trans hdraft
      have hjoins : ∀ joins : Option (List DraftJoin), Keeps Spreads env (joins.mapM fun joins => joins.mapM fun j => do
          pure { j with builder := ← j.builder.mapM (Declare.clone depth) }) := fun joins =>
        Keeps.modular.optionMapM (fun joins => Keeps.modular.mapM (fun j =>
          .bind (Keeps.modular.optionMapM ih _) fun _ => .pure _) joins) joins
      refine Keeps.bind_at (hjoins _) fun joins u hcopied => ?_
      have hu : Spreads t u := (hjoins _).of_exec hcopied
      obtain ⟨m, hm⟩ : ∃ m, t.unionsAt b.draft = u.unionsAt m := by
        by_cases hlt : b.draft < t.drafts.size
        · exact ⟨b.draft, (hu.kept _ hlt).symm⟩
        · exact ⟨u.drafts.size, (unionsAt_of_size_le (Nat.le_of_not_lt hlt)).trans
            (unionsAt_of_size_le (le_refl _)).symm⟩
      exact trans_of Spreads hu (.push u (d := { t.drafts[b.draft]?.getD {} with joins })
        (b := { b with draft := u.drafts.size, pending := none }) hm rfl)

/-- The builder of a transaction gets the draft of a copy. -/
theorem keepsOrder_builderFor (id scope : Nat) : Keeps KeepsOrder env (Transaction.builderFor id scope) := by
  intro s hs
  have hnew : (Act.newBuilder (.transaction scope)).exec env s = (.ok s.builders.size, _) := rfl
  have hst := (spreads_newBuilder _).of_exec hnew
  unfold Transaction.builderFor
  rw [exec_bind_ok hnew, exec_bind_ok (exec_read _ _), exec_bind]
  rcases hclone : (Declare.clone env.depth id).exec env _ with ⟨outcome, u⟩
  have hsu := trans_of Spreads hst ((spreads_clone _ _).of_exec hclone)
  cases outcome with
  | error fault => exact hsu.keepsOrder hs
  | ok copy =>
      dsimp only
      rw [exec_bind, exec_builder]
      cases hcopy : u.builders[copy]? with
      | none => exact hsu.keepsOrder hs
      | some b => exact (hsu.redirected (le_refl _) ((hsu.keepsOrder hs).draft copy b hcopy)).keepsOrder hs

theorem spreads_drafting {α : Type} {change : Drafting α} (id : Nat) (hchange : Draft.LeavesLinks change) :
    Keeps Spreads env (Act.drafting id change) := by
  intro s
  unfold Act.drafting
  refine Keeps.bind_at (.draft id) fun d t hdraft => ?_
  obtain ⟨b, hb, rfl, rfl⟩ : ∃ b, s.builders[id]? = some b ∧ s.drafts[b.draft]?.getD {} = d ∧ s = t := by
    cases hb : s.builders[id]? with
    | none =>
        rw [exec_draft_of_none hb] at hdraft
        cases hdraft
    | some b =>
        cases (exec_draft hb).symm.trans hdraft
        exact ⟨b, rfl, rfl, rfl⟩
  have hsame := hchange (s.drafts[b.draft]?.getD {})
  rcases hrun : (ExceptT.run change).run (s.drafts[b.draft]?.getD {}) with ⟨outcome, d⟩
  unfold Talk.exec at hsame
  rw [hrun] at hsame
  dsimp only
  rw [exec_bind_ok (exec_modifyDraft hb fun _ => d), exec_lift]
  exact .redrafted s (Prod.mk.inj hsame).2

/-- Whatever is declared, the order is kept, but for unions. -/
theorem declaring_keepsOrder [env.Keeps KeepsOrder] :
    Declaring (fun _ => Keeps KeepsOrder env) (fun _ => True) fun _ => True where
  making := Keeps.making (fun role => (spreads_newBuilder role).mono fun _ _ => Spreads.keepsOrder)
    fun _ s => Spreads.keepsOrder (s := s) (.of_eq rfl rfl)
  newBuilder_bind hf := .bind ((spreads_newBuilder _).mono fun _ _ => Spreads.keepsOrder) hf
  draftOf_bind _ hf := .bind (.bind (.builder _) fun _ => .pure _) fun n => hf n trivial
  modifyDraftAt _ hunions _ s := (Spreads.redrafted s (hunions _)).keepsOrder
  drafting _ hchange := (spreads_drafting _ hchange).mono fun _ _ => Spreads.keepsOrder

/-- What does not unite builders keeps the order, as long as the scripts that it calls do. -/
theorem minding_keepsOrder [env.Keeps KeepsOrder] : Minding (Keeps KeepsOrder env) where
  toMaking := declaring_keepsOrder.making (K := [])
  idle answer change hop hidle _ _ s := by
    rw [hop]
    exact Spreads.keepsOrder (.of_eq (hidle s).builders (hidle s).drafts)
  modifyDraft id _ _ hunions := (spreads_modifyDraft id hunions).mono fun _ _ => Spreads.keepsOrder
  modifyBuilder id _ _ hdraft _ _ s := (Spreads.modifyBuilder s id hdraft).keepsOrder
  clone depth id := (spreads_clone depth id).mono fun _ _ => Spreads.keepsOrder
  builderFor := keepsOrder_builderFor
  table id tables := by
    have h : Keeps KeepsOrder env (Declare.table id tables >>= Pure.pure) :=
      declaring_keepsOrder.table_bind (K := []) (.inl trivial) tables fun k _ _ => .pure k
    rwa [bind_pure] at h
  condition id := declaring_keepsOrder.condition (K := []) (.inl trivial)
  mutate id c hc hpurpose hties := by
    refine declaring_keepsOrder.mutate (K := []) hc hpurpose (.inl trivial) fun member kind hunion => ?_
    rw [hunion] at hties
    exact absurd trivial hties

instance [env.Keeps KeepsOrder] : env.Minds KeepsOrder := ⟨minding_keepsOrder⟩

instance : env.Takes KeepsOrder where
  take id s := (Spreads.modifyBuilder s id (f := fun b => { b with pending := none }) fun _ => rfl).keepsOrder

instance [env.Keeps KeepsOrder] : env.Transacts KeepsOrder where
  statement _ s _ := Spreads.keepsOrder (s := s) (.of_eq rfl rfl)
  pending id _ _ _ result _ t _ hst :=
    trans_of KeepsOrder hst
      (Spreads.modifyBuilder t id (f := fun b => { b with pending := some result }) fun _ => rfl).keepsOrder
  called _ s := Spreads.keepsOrder (s := s) (.of_eq rfl rfl)
  noted s _ _ := Spreads.keepsOrder (s := s) (.of_eq rfl rfl)
  opened s := Spreads.keepsOrder (s := s) (.of_eq rfl rfl)
  ended s _ _ _ _ := Spreads.keepsOrder (s := s) (.of_eq rfl rfl)
  assumed s _ _ _ := Spreads.keepsOrder (s := s) (.of_eq rfl rfl)
  resumed s t report inner hst := by
    have haside : KeepsOrder s s.aside := Spreads.keepsOrder (.of_eq rfl rfl)
    have hresumed : KeepsOrder t (s.resumed t report inner) := Spreads.keepsOrder (.of_eq rfl rfl)
    exact trans_of KeepsOrder haside (trans_of KeepsOrder hst hresumed)

end Keeps

end Session

end SqlBuilder
