import Mathlib.Data.Nat.Basic
import Mathlib.Order.Basic
import SqlBuilder.Proofs.Session.Linked
import SqlBuilder.Proofs.Session.Playing
import SqlBuilder.Session.Start

/-!
Whatever is called, builders and drafts refer to nothing that is not there, as long as the scripts of groups and hooks
keep that up; and scripts do. Builders that have come up on the way are there, so drafts may refer to them.
-/

namespace SqlBuilder

open Act Session

variable {α β : Type} {env : Surroundings} {s t : Session} {K : List Nat} {k : Nat}

namespace Session

/-- Where everything that is referred to is there, and the given builders are there, too, that stays so. -/
def Links (K : List Nat) (s t : Session) : Prop :=
  s.Linked → (∀ k ∈ K, k < s.builders.size) → t.Linked ∧ s.builders.size ≤ t.builders.size

instance : IsPreorder Session (Links K) where
  refl _ h _ := ⟨h, le_rfl⟩
  trans s t u hst htu h hK := by
    obtain ⟨ht, hsize⟩ := hst h hK
    obtain ⟨hu, hsize'⟩ := htu ht fun k hk => (hK k hk).trans_le hsize
    exact ⟨hu, hsize.trans hsize'⟩

theorem Links.mono {K' : List Nat} (h : Links K s t) (hK : K ⊆ K') : Links K' s t :=
  fun hs hthere => h hs fun k hk => hthere k (hK hk)

theorem Links.of_eq (hbuilders : t.builders = s.builders) (hdrafts : t.drafts = s.drafts) : Links K s t :=
  fun hs _ => ⟨hs.of_eq hbuilders hdrafts, (congrArg Array.size hbuilders).ge⟩

/-- What the changed draft refers to newly has come up before. -/
theorem Links.modifyDraft (s : Session) (n : Nat) {f : Draft → Draft}
    (hjoins : ∀ d, s.drafts[n]? = some d → ∀ j ∈ (f d).joins.getD [],
      j ∈ d.joins.getD [] ∨ ∀ k, j.builder = some k → k ∈ K)
    (hunions : ∀ d, s.drafts[n]? = some d → ∀ u ∈ (f d).unions.getD [], u ∈ d.unions.getD [] ∨ u.builder ∈ K) :
    Links K s { s with drafts := s.drafts.modify n f } := by
  refine fun hs hK => ⟨hs.modifyDraft n (fun d hd j hj => ?_) fun d hd u hu => ?_, le_rfl⟩
  · exact (hjoins d hd j hj).imp_right fun hnew k hk => hK k (hnew k hk)
  · exact (hunions d hd u hu).imp_right (hK _)

theorem Links.modifyBuilder (s : Session) (id : Nat) {f : Builder → Builder} (hf : ∀ b, (f b).draft = b.draft) :
    Links K s { s with builders := s.builders.modify id f } :=
  fun hs _ => ⟨hs.modifyBuilder id hf, Array.size_modify.ge⟩

end Session

def Draft.references (d : Draft) : List Nat :=
  (d.joins.getD []).filterMap (·.builder) ++ (d.unions.getD []).map (·.builder)

theorem Draft.join_references {d : Draft} {j : DraftJoin} (hj : j ∈ d.joins.getD []) (hk : j.builder = some k) :
    k ∈ d.references := List.mem_append_left _ (List.mem_filterMap.2 ⟨j, hj, hk⟩)

theorem Draft.union_references {d : Draft} {u : DraftUnion} (hu : u ∈ d.unions.getD []) : u.builder ∈ d.references :=
  List.mem_append_right _ (List.mem_map_of_mem hu)

theorem Session.Linked.references_lt (h : s.Linked) {n : Nat} {d : Draft} (hd : s.drafts[n]? = some d)
    (hk : k ∈ d.references) : k < s.builders.size := by
  obtain hk | hk := List.mem_append.1 hk
  · obtain ⟨j, hj, hjk⟩ := List.mem_filterMap.1 hk
    exact h.join n d hd j hj k hjk
  · obtain ⟨u, hu, rfl⟩ := List.mem_map.1 hk
    exact h.union n d hd u hu

instance Surroundings.keeps_links [h : env.Keeps (Links [])] : env.Keeps (Links K) where
  fill script target s := (h.fill script target s).mono (List.nil_subset _)
  notify name script call s := (h.notify name script call s).mono (List.nil_subset _)

namespace Session.Links

/-! ### What comes up is there -/

/-- What follows may refer to a builder that is new. -/
theorem fresh_bind {op : Act Nat} {d : Draft} {b : Session → Builder} {f : Nat → Act β}
    (hop : ∀ s : Session, op.exec env s = (.ok s.builders.size,
      { s with drafts := s.drafts.push d, builders := s.builders.push (b s) }))
    (hb : ∀ s : Session, (b s).draft = s.drafts.size) (hd : d.references ⊆ K)
    (hf : ∀ k, Keeps (Links (k :: K)) env (f k)) : Keeps (Links K) env (op >>= f) := by
  intro s hs hK
  let t : Session := { s with drafts := s.drafts.push d, builders := s.builders.push (b s) }
  have ht : t.Linked := hs.of_push (hb s) (fun j hj k hk => hK k (hd (Draft.join_references hj hk)))
    fun u hu => hK u.builder (hd (Draft.union_references hu))
  have hsize : s.builders.size < t.builders.size := (Array.size_push _).symm ▸ Nat.lt_succ_self _
  have hthere : ∀ k ∈ s.builders.size :: K, k < t.builders.size :=
    List.forall_mem_cons.2 ⟨hsize, fun k hk => (hK k hk).trans hsize⟩
  rw [exec_bind_ok (hop s)]
  obtain ⟨hu, hle⟩ := hf s.builders.size t ht hthere
  exact ⟨hu, hsize.le.trans hle⟩

theorem newBuilder_bind {role : BuilderRole} {f : Nat → Act β} (hf : ∀ k, Keeps (Links (k :: K)) env (f k)) :
    Keeps (Links K) env (Act.newBuilder role >>= f) :=
  fresh_bind (fun _ => rfl) (fun _ => rfl) (List.nil_subset _) hf

/-- What follows may refer to the builder and to whatever its draft refers to. -/
theorem draft_bind {f : Draft → Act β} (hf : ∀ d : Draft, Keeps (Links (k :: d.references ++ K)) env (f d)) :
    Keeps (Links K) env (Act.draft k >>= f) := by
  intro s hs hK
  rw [exec_bind]
  cases hb : s.builders[k]? with
  | none =>
      rw [exec_draft_of_none hb]
      exact ⟨hs, le_rfl⟩
  | some b =>
      rw [exec_draft hb]
      have hd : s.drafts[b.draft]? = some (s.drafts[b.draft]?.getD {}) := by
        rw [Array.getElem?_eq_getElem (hs.draft k b hb)]
        rfl
      have hid : k < s.builders.size := (Array.getElem?_eq_some_iff.1 hb).1
      refine hf _ s hs (List.forall_mem_cons.2 ⟨hid, fun k' hk' => ?_⟩)
      exact (List.mem_append.1 hk').elim (hs.references_lt hd) (hK k')

/-! ### Declarations -/

/-- What has come up may be referred to. -/
theorem changing (k : Nat) {f : Draft → Draft}
    (hjoins : ∀ d, ∀ j ∈ (f d).joins.getD [], j ∈ d.joins.getD [] ∨ ∀ b, j.builder = some b → b ∈ K)
    (hunions : ∀ d, ∀ u ∈ (f d).unions.getD [], u ∈ d.unions.getD [] ∨ u.builder ∈ K) :
    Keeps (Links K) env (Act.modifyDraft k f) :=
  .bind (.bind (.builder _) fun _ => .pure _) fun n s =>
    modifyDraft s n (fun d _ => hjoins d) fun d _ => hunions d

theorem drafting {change : Drafting α} (k : Nat) (hchange : Draft.LeavesLinks change) :
    Keeps (Links K) env (Act.drafting k change) := by
  intro s
  refine Keeps.bind_at (.draft k) fun d t hdraft => ?_
  obtain ⟨n, u, hdraftOf, hd⟩ := exec_bind_eq_ok hdraft
  obtain ⟨b, v, hbuilder, hn⟩ := exec_bind_eq_ok hdraftOf
  obtain ⟨hb, rfl⟩ := exec_builder_eq_ok hbuilder
  cases hn
  cases hd
  have hsame := hchange (t.drafts[b.draft]?.getD {})
  rcases hrun : (ExceptT.run change).run (t.drafts[b.draft]?.getD {}) with ⟨outcome, d⟩
  unfold Talk.exec at hsame
  rw [hrun] at hsame
  obtain ⟨hjoins, hunions⟩ := Prod.mk.inj hsame
  dsimp only
  rw [exec_bind_ok (exec_modifyDraft hb fun _ => d), exec_lift]
  refine modifyDraft t b.draft (fun d' hd' j hj => .inl ?_) fun d' hd' u hu => .inl ?_
  · rw [hd'] at hjoins
    exact hjoins ▸ hj
  · rw [hd'] at hunions
    exact hunions ▸ hu

/-- Whatever is declared refers to what is there. -/
theorem declaring [env.Keeps (Links [])] :
    Declaring (fun K => Keeps (Links K) env) (fun _ => True) fun _ => True where
  making {K} := by
    refine Keeps.making (fun role => ?_) fun _ s => of_eq rfl rfl
    have hnew : Keeps (Links K) env (Act.newBuilder role >>= Pure.pure) := newBuilder_bind fun k => .pure k
    rwa [bind_pure] at hnew
  newBuilder_bind := newBuilder_bind
  draftOf_bind _ hf := .bind (.bind (.builder _) fun _ => .pure _) fun n => hf n trivial
  modifyDraftAt _ hunions hjoins s :=
    modifyDraft s _ (fun d _ => hjoins d) fun d _ _ hu => .inl (hunions d ▸ hu)
  drafting _ := drafting _

/-- The members that move are there, and so is the new one. -/
theorem union (id : Nat) (member kind : Value) : Keeps (Links K) env (Declare.union id member kind) := by
  refine .bind (.lift _) fun _ => ?_
  split
  · rename_i role k
    refine draft_bind fun d => ?_
    have hadd : ∀ kind, Keeps (Links (k :: d.references ++ K)) env (Act.modifyDraft id fun d =>
        { d with unions := extended d.unions [{ kind, builder := k }] }) := by
      refine fun kind => changing id (fun _ _ hj => .inl hj) fun d u hu => ?_
      obtain hold | hnew := List.mem_append.1 hu
      · exact .inl hold
      · obtain rfl := List.mem_singleton.1 hnew
        exact .inr List.mem_cons_self
    dsimp only
    split
    · exact hadd _
    · refine .bind (changing id (fun _ _ hj => .inl hj) fun _ u hu => .inr ?_) fun _ => ?_
      · exact List.mem_cons_of_mem _ (List.mem_append_left _ (Draft.union_references hu))
      · refine .bind (changing k (fun _ _ hj => .inl hj) fun _ u hu => ?_) fun _ => hadd _
        cases hu
  · exact .throw _

end Session.Links

/-! ### Copies -/

namespace Declare

def cloneJoin (depth : Nat) (j : DraftJoin) : Act DraftJoin := do
  pure { j with builder := ← j.builder.mapM (clone depth) }

theorem clone_succ (depth id : Nat) : clone (depth + 1) id = (do
    let b ← Act.builder id
    let d ← Act.draft id
    let joins ← d.joins.mapM fun joins => joins.mapM (cloneJoin depth)
    let draft ← Act.addDraft { d with joins }
    Act.addBuilder { b with draft, pending := none }) := rfl

end Declare

namespace Session.Links

open Declare

section Joins

variable {depth : Nat} (ih : ∀ {K : List Nat} {id : Nat} {β : Type} {f : Nat → Act β},
  (∀ c, Keeps (Links (c :: K)) env (f c)) → Keeps (Links K) env (clone depth id >>= f))

include ih

theorem cloneJoin_bind (j : DraftJoin) {f : DraftJoin → Act β}
    (hf : ∀ j' K', K ⊆ K' → (∀ k, j'.builder = some k → k ∈ K') → Keeps (Links K') env (f j')) :
    Keeps (Links K) env (cloneJoin depth j >>= f) := by
  obtain ⟨kind, table, builder⟩ := j
  cases builder with
  | none => exact hf _ K (List.Subset.refl _) fun k hk => by cases hk
  | some k =>
      simp only [cloneJoin, Option.mapM_some, map_eq_pure_bind, bind_assoc, pure_bind]
      refine ih fun c => hf _ (c :: K) (List.subset_cons_self _ _) fun k hk => ?_
      obtain rfl := Option.some.inj hk
      exact List.mem_cons_self

theorem cloneJoins_bind (js : List DraftJoin) {f : List DraftJoin → Act β}
    (hf : ∀ js' K', K ⊆ K' → (∀ j ∈ js', ∀ k, j.builder = some k → k ∈ K') → Keeps (Links K') env (f js')) :
    Keeps (Links K) env (js.mapM (cloneJoin depth) >>= f) := by
  induction js generalizing K f with
  | nil =>
      rw [List.mapM_nil, pure_bind]
      exact hf [] K (List.Subset.refl _) fun _ hj => by cases hj
  | cons j js ihjs =>
      simp only [List.mapM_cons, bind_assoc, pure_bind]
      refine cloneJoin_bind ih j fun j' K' hK hj' => ihjs fun js' K'' hK' hjs' => ?_
      exact hf _ K'' (List.Subset.trans hK hK') (List.forall_mem_cons.2 ⟨fun k hk => hK' (hj' k hk), hjs'⟩)

end Joins

/-- The draft of a copy refers to what has come up. -/
theorem copy_bind {b : Builder} {d : Draft} {joins : Option (List DraftJoin)} {K' : List Nat} {f : Nat → Act β}
    (hK : K ⊆ K') (hd : d.references ⊆ K') (hjoins : ∀ j ∈ joins.getD [], ∀ k, j.builder = some k → k ∈ K')
    (hf : ∀ c, Keeps (Links (c :: K)) env (f c)) : Keeps (Links K') env
      (Act.addDraft { d with joins } >>= fun draft => Act.addBuilder { b with draft, pending := none } >>= f) := by
  have hreferences : ({ d with joins } : Draft).references ⊆ K' := by
    intro k hk
    obtain hk | hk := List.mem_append.1 hk
    · obtain ⟨j, hj, hjk⟩ := List.mem_filterMap.1 hk
      exact hjoins j hj k hjk
    · exact hd (List.mem_append_right _ hk)
  rw [← bind_assoc]
  refine fresh_bind (fun _ => rfl) (fun _ => rfl) hreferences fun c s => (hf c s).mono ?_
  exact List.cons_subset_cons c hK

/-- What follows may refer to the copy. -/
theorem clone_bind {depth id : Nat} {f : Nat → Act β} (hf : ∀ c, Keeps (Links (c :: K)) env (f c)) :
    Keeps (Links K) env (clone depth id >>= f) := by
  induction depth generalizing K id β with
  | zero =>
      intro s hs _
      have hfails : (clone 0 id).exec env s = (.error .tooDeep, s) := rfl
      rw [exec_bind_error hfails]
      exact ⟨hs, le_rfl⟩
  | succ depth ih =>
      rw [clone_succ]
      simp only [bind_assoc]
      refine .bind (.builder _) fun b => draft_bind fun d => ?_
      have hK : K ⊆ id :: d.references ++ K := List.subset_append_right _ _
      have hd : d.references ⊆ id :: d.references ++ K :=
        List.Subset.trans (List.subset_cons_self _ _) (List.subset_append_left _ _)
      cases d.joins with
      | none =>
          rw [Option.mapM_none, pure_bind]
          exact copy_bind hK hd (fun _ hj => by cases hj) hf
      | some js =>
          simp only [Option.mapM_some, map_eq_pure_bind, bind_assoc, pure_bind]
          exact cloneJoins_bind ih js fun js' K' hK' hjs' =>
            copy_bind (List.Subset.trans hK hK') (List.Subset.trans hd hK') hjs' hf

/-! ### Calls and scripts -/

/-- The draft that the builder uses from now on is there. -/
theorem redirect (id other : Nat) : Keeps (Links K) env (do
    let b' ← Act.builder other
    Act.modifyBuilder id fun b => { b with draft := b'.draft }) := by
  intro s
  refine Keeps.bind_at (.builder other) fun b' t hbuilder hs hK => ?_
  obtain ⟨hb, rfl⟩ := exec_builder_eq_ok hbuilder
  exact ⟨hs.redirected id (hs.draft other b' hb), Array.size_modify.ge⟩

theorem clone (depth id : Nat) : Keeps (Links K) env (Declare.clone depth id) := by
  have h : Keeps (Links K) env (Declare.clone depth id >>= Pure.pure) := clone_bind fun c => .pure c
  rwa [bind_pure] at h

theorem working [env.Keeps (Links [])] : Working (Keeps (Links K) env) where
  toMaking := declaring.making
  idle answer change hop hidle _ _ s := by
    rw [hop]
    exact of_eq (hidle s).builders (hidle s).drafts
  modifyDraft id _ hjoins hunions :=
    changing id (fun d _ hj => .inl (hjoins d ▸ hj)) fun d _ hu => .inl (hunions d ▸ hu)
  modifyBuilder id _ _ hdraft _ _ s := modifyBuilder s id hdraft
  clone := clone
  builderFor := declaring.making.builderFor clone redirect
  table id tables := by
    have h : Keeps (Links K) env (table id tables >>= Pure.pure) :=
      declaring.table_bind (.inl trivial) tables fun k K _ => .pure k
    rwa [bind_pure] at h
  condition id := declaring.condition (.inl trivial)
  mutate _ _ hc hpurpose _ := declaring.mutate hc hpurpose (.inl trivial) fun _ _ _ => union _ _ _
  redirect := redirect
  union := union
  take id s := modifyBuilder s id fun _ => rfl

instance declares [env.Keeps (Links [])] : env.Declares (Links []) := ⟨working⟩

instance transacts [env.Keeps (Links [])] : env.Transacts (Links []) where
  statement _ _ _ := of_eq rfl rfl
  pending id _ _ _ result s t _ h :=
    trans_of (Links []) h (modifyBuilder (f := fun b => { b with pending := some result }) t id fun _ => rfl)
  called _ _ := of_eq rfl rfl
  noted _ _ _ := of_eq rfl rfl
  opened _ := of_eq rfl rfl
  ended _ _ _ _ _ := of_eq rfl rfl
  assumed _ _ _ _ := of_eq rfl rfl
  resumed s t report inner h := by
    have haside : Links [] s s.aside := of_eq rfl rfl
    have hresumed : Links [] t (s.resumed t report inner) := of_eq rfl rfl
    exact trans_of (Links []) haside (trans_of (Links []) h hresumed)

end Session.Links

/-! ### Sessions from their start -/

section Start

variable {R : Session → Session → Prop} [IsPreorder Session R] [env.Declares R] [env.Transacts R]

theorem Session.keeps_greet (sql : String) : Keeps R env (greet sql) := by
  refine .tryCatch (.bind ?_ fun _ => .pure _) fun fault => ?_
  · exact Transaction.keeps_called (.execute (.text sql) []) fun _ => rfl
  split
  · exact .bind (.bind .get fun _ => .pure _) fun _ => .bind (Keeps.working.issued _) fun _ => .throw _
  · exact .throw _

/-- The beginning of a session keeps what scripts do. -/
theorem Session.keeps_start (config : Option ConnectionConfig) : Keeps R env (start config) := by
  have hbuilder : Keeps R env (do Play.assign "it" (← Act.builderValue (← Act.newBuilder .query))) :=
    .bind (Keeps.working.newBuilder _) fun _ => .bind (Keeps.working.builderValue _) fun _ =>
      Keeps.working.toIdling.assign _ _
  cases config with
  | none => exact hbuilder
  | some c =>
      refine .bind (.bind .get fun _ => .pure _) fun _ => .bind (Keeps.modular.forM keeps_greet _) fun _ => hbuilder

end Start

/-- A session that has been set up is what the start has left, with an empty journal. -/
theorem Session.exec_start_of_source {source : DriverSource} {config : Option ConnectionConfig}
    (h : (Started.ofSource source config).outcome = .ok s) : ∃ driver t,
      (start config).exec (Play.surroundings Play.maxDepth) (.ofDriver driver config) = (.ok (), t) ∧
        s = { t with journal := [] } := by
  unfold Started.ofSource at h
  dsimp only at h
  split at h
  · cases h
  · rename_i driver _
    rcases hrun : Play.run (start config) (.ofDriver driver config) with ⟨outcome, t⟩
    rw [hrun] at h
    cases outcome with
    | error fault => cases h
    | ok x =>
        cases h
        exact ⟨driver, t, hrun, rfl⟩

namespace Session.Linked

instance surroundings (depth : Nat) : (Play.surroundings depth).Keeps (Links []) :=
  Play.keeps_surroundings (fun _ _ => inferInstance) (fun _ _ => inferInstance) depth

/-- What keeps the links leaves nothing that refers to what is not there. -/
theorem exec (h : s.Linked) {op : Act α} (hop : Keeps (Links []) env op) : (op.exec env s).2.Linked :=
  (hop s h (by simp)).1

/-- A session that has been set up is linked. -/
theorem ofSource {source : DriverSource} {config : Option ConnectionConfig}
    (h : (Started.ofSource source config).outcome = .ok s) : s.Linked := by
  obtain ⟨driver, t, hstart, rfl⟩ := exec_start_of_source h
  have hempty : (Session.ofDriver driver config).Linked :=
    ⟨by simp [ofDriver], by simp [ofDriver], by simp [ofDriver]⟩
  have hkeeps : Keeps (Links []) (Play.surroundings Play.maxDepth) (start config) := keeps_start config
  have hlinked := hempty.exec hkeeps
  rw [hstart] at hlinked
  exact hlinked.of_eq rfl rfl

/-- Whatever is called on a builder keeps a session linked. -/
theorem perform (h : s.Linked) (depth id : Nat) (c : BuilderCall) :
    ((c.perform id).exec (Play.surroundings depth) s).2.Linked := h.exec (BuilderCall.keeps_perform id c)

/-- And so does any script. -/
theorem record (h : s.Linked) (depth : Nat) (isOutermost : Bool) (script : List Step) :
    ((Play.record isOutermost script).exec (Play.surroundings depth) s).2.Linked :=
  h.exec (Keeps.scripting.record isOutermost script)

end Session.Linked

end SqlBuilder
