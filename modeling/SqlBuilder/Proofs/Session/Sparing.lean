import SqlBuilder.Proofs.Session.Drafting
import SqlBuilder.Proofs.Session.Footprint
import SqlBuilder.Proofs.Session.Scope

/-!
Calls that spare the footprint of other builders. A builder stands apart from some parts of a session if its draft and
those of its joins are none of them. Whatever is declared on such a builder changes drafts of its own and makes new
ones; its joins get builders of their own. So the parts are as before, and the builder still stands apart from them, as
long as the scripts of groups and hooks keep to that.
-/

namespace SqlBuilder

open Act

variable {α β : Type} {env : Surroundings} {p : Footprint} {s t u : Session} {a k : Nat} {K : List Nat}

namespace Footprint

/-- The draft of the builder is none of the parts. -/
def Free (p : Footprint) (s : Session) (k : Nat) : Prop :=
  ∃ b : Builder, s.builders[k]? = some b ∧ b.draft < s.drafts.size ∧ b.draft ∉ p.drafts

/-- The builder and those of its joins have drafts that are none of the parts. -/
structure Apart (p : Footprint) (s : Session) (a : Nat) : Prop where
  kept : ∀ n ∈ p.drafts, n < s.drafts.size
  free : p.Free s a
  join : ∀ j ∈ (s.declared a).joins.getD [], ∀ k, j.builder = some k → p.Free s k

/-- Where the builder stands apart from the parts, and the other builders are none of them, the parts are spared and
the builder still stands apart. -/
def Guarded (p : Footprint) (a : Nat) (K : List Nat) (s t : Session) : Prop :=
  p.Apart s a → (∀ k ∈ K, p.Free s k) → p.Spares s t ∧ p.Apart t a

theorem Spares.free (h : p.Spares s t) (hk : p.Free s k) : p.Free t k := by
  obtain ⟨b, hb, hsize, hfree⟩ := hk
  obtain ⟨b', hb', hdraft⟩ := h.builders k b hb
  exact ⟨b', hb', hdraft ▸ hsize.trans_le h.size, hdraft ▸ hfree⟩

instance : IsPreorder Session (p.Guarded a K) where
  refl s h _ := ⟨.refl p s, h⟩
  trans s t u hst htu h hK := by
    obtain ⟨hspares, hapart⟩ := hst h hK
    obtain ⟨hspares', hapart'⟩ := htu hapart fun k hk => hspares.free (hK k hk)
    exact ⟨hspares.trans hspares', hapart'⟩

/-- A new join of the builder must have a builder of its own. -/
theorem Apart.of_spares (h : p.Apart s a) (hst : p.Spares s t)
    (hjoins : ∀ j ∈ (t.declared a).joins.getD [], j ∈ (s.declared a).joins.getD [] ∨
      ∀ k, j.builder = some k → p.Free t k) : p.Apart t a where
  kept n hn := (h.kept n hn).trans_le hst.size
  free := hst.free h.free
  join j hj k hk := by
    obtain hold | hnew := hjoins j hj
    · exact hst.free (h.join j hold k hk)
    · exact hnew k hk

theorem Guarded.mono {K' : List Nat} (h : p.Guarded a K s t) (hK : ∀ k ∈ K, k ∈ K') : p.Guarded a K' s t :=
  fun hapart hfree => h hapart fun k hk => hfree k (hK k hk)

/-- Nothing becomes of the drafts that there are, and no builder gets another one. -/
structure Keeping (s t : Session) : Prop where
  drafts : ∀ n < s.drafts.size, t.drafts[n]? = s.drafts[n]?
  builders : ∀ (id : Nat) (b : Builder), s.builders[id]? = some b →
    ∃ b' : Builder, t.builders[id]? = some b' ∧ b'.draft = b.draft
  size : s.drafts.size ≤ t.drafts.size
  engine : t.driver.engine = s.driver.engine
  lead : t.lead = s.lead
  overwriting : t.overwriting = s.overwriting
  scripts : ∀ (n : Nat) (script : Script), s.scripts[n]? = some script → t.scripts[n]? = some script

theorem Keeping.trans (h : Keeping s t) (h' : Keeping t u) : Keeping s u where
  drafts n hn := (h'.drafts n (hn.trans_le h.size)).trans (h.drafts n hn)
  builders id b hb := by
    obtain ⟨b', hb', hdraft⟩ := h.builders id b hb
    obtain ⟨b'', hb'', hdraft'⟩ := h'.builders id b' hb'
    exact ⟨b'', hb'', hdraft'.trans hdraft⟩
  size := h.size.trans h'.size
  engine := h'.engine.trans h.engine
  lead := h'.lead.trans h.lead
  overwriting := h'.overwriting.trans h.overwriting
  scripts n script hn := h'.scripts n script (h.scripts n script hn)

theorem Keeping.declared (h : Keeping s t) {b : Builder} (hb : s.builders[k]? = some b)
    (hsize : b.draft < s.drafts.size) : t.declared k = s.declared k := by
  obtain ⟨b', hb', hdraft⟩ := h.builders k b hb
  rw [Session.declared_eq hb, Session.declared_eq hb', hdraft, h.drafts _ hsize]

theorem Keeping.guarded (h : Keeping s t) : p.Guarded a K s t := by
  intro hapart _
  have hspares : p.Spares s t := ⟨fun n hn => h.drafts n (hapart.kept n hn), h.builders, h.size, h.engine, h.lead,
    h.overwriting, h.scripts⟩
  obtain ⟨b, hb, hsize, -⟩ := hapart.free
  exact ⟨hspares, hapart.of_spares hspares fun j hj => .inl (h.declared hb hsize ▸ hj)⟩

theorem Keeping.of_eq (hbuilders : t.builders = s.builders) (hdrafts : t.drafts = s.drafts)
    (hengine : t.driver.engine = s.driver.engine) (hlead : t.lead = s.lead)
    (hoverwriting : t.overwriting = s.overwriting) (hscripts : t.scripts = s.scripts) : Keeping s t where
  drafts n _ := by rw [hdrafts]
  builders id b hb := ⟨b, hbuilders ▸ hb, rfl⟩
  size := by rw [hdrafts]
  engine := hengine
  lead := hlead
  overwriting := hoverwriting
  scripts n script hn := hscripts ▸ hn

theorem Keeping.modifyBuilder (s : Session) (id : Nat) {f : Builder → Builder} (hf : ∀ b, (f b).draft = b.draft) :
    Keeping s { s with builders := s.builders.modify id f } where
  drafts _ _ := rfl
  builders _ b hb := getElem?_modify_of_some hb rfl fun _ => hf b
  size := le_refl _
  engine := rfl
  lead := rfl
  overwriting := rfl
  scripts _ _ h := h

/-- A draft that is none of the parts is changed. A join that it gets has one of the given builders, if it has any. -/
theorem Guarded.modifyDraftAt {n : Nat} (hn : n ∉ p.drafts) {f : Draft → Draft}
    (hf : ∀ j ∈ (f (s.drafts[n]?.getD {})).joins.getD [], j ∈ (s.drafts[n]?.getD {}).joins.getD [] ∨
      ∀ k, j.builder = some k → k ∈ K) :
    p.Guarded a K s { s with drafts := s.drafts.modify n f } := by
  intro hapart hfree
  let t : Session := { s with drafts := s.drafts.modify n f }
  have hspares : p.Spares s t := by
    refine ⟨fun m hm => ?_, fun id b hb => ⟨b, hb, rfl⟩, ?_, rfl, rfl, rfl, fun _ _ h => h⟩
    · have hne : n ≠ m := fun h => hn (h ▸ hm)
      rw [Array.getElem?_modify, if_neg hne]
    · rw [Array.size_modify]
  refine ⟨hspares, hapart.of_spares hspares fun j hj => ?_⟩
  obtain ⟨b, hb, hsize, -⟩ := hapart.free
  have hb' : t.builders[a]? = some b := hb
  rw [Session.declared_eq hb', Array.getElem?_modify, Array.getElem?_eq_getElem hsize] at hj
  rw [Session.declared_eq hb, Array.getElem?_eq_getElem hsize]
  by_cases h : n = b.draft
  · rw [if_pos h] at hj
    rw [h, Array.getElem?_eq_getElem hsize] at hf
    obtain hold | hnew := hf j hj
    · exact .inl hold
    · exact .inr fun k hk => hspares.free (hfree k (hnew k hk))
  · rw [if_neg h] at hj
    exact .inl hj

/-- A new draft and a new builder. -/
theorem Keeping.pushDraft (s : Session) (d : Draft) : Keeping s { s with drafts := s.drafts.push d } where
  drafts n hn := by rw [Array.getElem?_push_lt hn, Array.getElem?_eq_getElem hn]
  builders _ b hb := ⟨b, hb, rfl⟩
  size := by
    rw [Array.size_push]
    exact Nat.le_succ _
  engine := rfl
  lead := rfl
  overwriting := rfl
  scripts _ _ h := h

theorem Keeping.pushBuilder (s : Session) (b : Builder) : Keeping s { s with builders := s.builders.push b } where
  drafts _ _ := rfl
  builders _ b' hb := ⟨b', getElem?_push_of_some hb, rfl⟩
  size := le_refl _
  engine := rfl
  lead := rfl
  overwriting := rfl
  scripts _ _ h := h

end Footprint

open Footprint

/-! ### Operations that spare the parts -/

instance Surroundings.keeps_guarded [h : env.Keeps (p.Guarded a [])] : env.Keeps (p.Guarded a K) where
  fill script target s := (h.fill script target s).mono (by simp)
  notify name script call s := (h.notify name script call s).mono (by simp)

namespace Act.Keeps

/-- The operation changes nothing that others depend on. -/
theorem keeping {op : Act α} (h : ∀ s, Keeping s (op.exec env s).2) : Keeps (p.Guarded a K) env op :=
  fun s => (h s).guarded

/-- What follows may use the builder that is new. -/
theorem newBuilder_bind {role : BuilderRole} {f : Nat → Act β}
    (hf : ∀ k, Keeps (p.Guarded a (k :: K)) env (f k)) : Keeps (p.Guarded a K) env (Act.newBuilder role >>= f) := by
  intro s hapart hfree
  let b : Builder :=
    { role, draft := s.drafts.size, lead := s.lead, overwriting := .bool s.overwriting }
  let t : Session := { s with drafts := s.drafts.push {}, builders := s.builders.push b }
  have hnew : (Act.newBuilder role).exec env s = (.ok s.builders.size, t) := rfl
  have hkeeping : p.Guarded a K s t :=
    trans_of (p.Guarded a K) (Keeping.pushDraft s {}).guarded (Keeping.pushBuilder _ b).guarded
  obtain ⟨hspares, hapart'⟩ := hkeeping hapart hfree
  have hk : p.Free t s.builders.size := by
    refine ⟨b, ?_, ?_, fun hmem => (hapart.kept _ hmem).false⟩
    · exact Array.getElem?_push_size
    · exact (Array.size_push _).symm ▸ Nat.lt_succ_self _
  rw [exec_bind_ok hnew]
  obtain ⟨hspares', hapart''⟩ := hf _ t hapart' (List.forall_mem_cons.2 ⟨hk, fun k hk => hspares.free (hfree k hk)⟩)
  exact ⟨hspares.trans hspares', hapart''⟩

/-- The draft of a builder that may be changed is none of the parts. -/
theorem target (hk : k = a ∨ k ∈ K) (hapart : p.Apart s a) (hfree : ∀ k ∈ K, p.Free s k) : p.Free s k := by
  obtain rfl | hmem := hk
  · exact hapart.free
  · exact hfree k hmem

theorem draftOf_bind {f : Nat → Act β} (hk : k = a ∨ k ∈ K) (hf : ∀ n ∉ p.drafts, Keeps (p.Guarded a K) env (f n)) :
    Keeps (p.Guarded a K) env (Act.draftOf k >>= f) := by
  intro s hapart hfree
  obtain ⟨b, hb, -, hdraft⟩ := target hk hapart hfree
  rw [exec_bind_ok (exec_draftOf hb)]
  exact hf b.draft hdraft s hapart hfree

/-- The joins are left alone. -/
theorem keeping_joins {f : Draft → Draft} (hk : k = a ∨ k ∈ K) (hf : ∀ d, (f d).joins = d.joins) :
    Keeps (p.Guarded a K) env (Act.modifyDraft k f) :=
  draftOf_bind hk fun _ hn _ => Guarded.modifyDraftAt hn fun _ hj => .inl (hf _ ▸ hj)

theorem drafting {change : Drafting α} (hk : k = a ∨ k ∈ K) (hchange : Draft.LeavesLinks change) :
    Keeps (p.Guarded a K) env (Act.drafting k change) := by
  intro s hapart hfree
  obtain ⟨b, hb, -, hdraft⟩ := target hk hapart hfree
  have hsame := congrArg Prod.fst (hchange (s.drafts[b.draft]?.getD {}))
  unfold Act.drafting
  rw [exec_bind_ok (exec_draft hb)]
  rcases hrun : (ExceptT.run change).run (s.drafts[b.draft]?.getD {}) with ⟨outcome, d⟩
  unfold Talk.exec at hsame
  rw [hrun] at hsame
  dsimp only at hsame ⊢
  rw [exec_bind_ok (exec_modifyDraft hb fun _ => d), exec_lift]
  exact Guarded.modifyDraftAt hdraft (fun j hj => .inl (hsame ▸ hj)) hapart hfree

/-- Whatever the builder declares spares the parts. -/
theorem declaring [env.Keeps (p.Guarded a [])] :
    Declaring (fun K => Keeps (p.Guarded a K) env) (fun k => k = a) fun n => n ∉ p.drafts where
  making := making
    (fun _ => bind (keeping fun s => .pushDraft s {}) fun _ => bind get fun _ => keeping fun s => .pushBuilder s _)
    fun _ => keeping fun _ => .of_eq rfl rfl rfl rfl rfl rfl
  newBuilder_bind := newBuilder_bind
  draftOf_bind := draftOf_bind
  modifyDraftAt hn _ hjoins _ := Guarded.modifyDraftAt hn (hjoins _)
  drafting := drafting

end Act.Keeps

end SqlBuilder
