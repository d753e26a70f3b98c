import Mathlib.Data.List.Forall2
import SqlBuilder.Proofs.Session.Callback
import SqlBuilder.Proofs.Session.Compile
import SqlBuilder.Proofs.Session.Sparing
import SqlBuilder.Proofs.Statement.Insertion

/-!
The statement of a builder that is united with others: its own projection and behind it that of each of its members,
once and in their order, each with its values. The scripts of groups that run on the way may do whatever they like, as
long as they leave the unions alone.
-/

namespace SqlBuilder

open Act

variable {α : Type} {env : Surroundings} {s t u : Session} {id : Nat}

/-! ### Writing -/

/-- United projections, each between parentheses behind its words. -/
def Query.unitedWith : List (UnionKind × Query) → Query
  | [] => .plain ""
  | (kind, part) :: rest => .plain kind.words ++ part.enclosed ++ unitedWith rest

def Query.united (own : Query) (parts : List (UnionKind × Query)) : Query :=
  if parts.isEmpty then own else own.enclosed ++ unitedWith parts

theorem Query.bindings_unitedWith (parts : List (UnionKind × Query)) :
    (unitedWith parts).bindings = parts.flatMap fun part => part.2.bindings := by
  induction parts with
  | nil => rfl
  | cons part rest ih =>
      change ([] ++ part.2.bindings) ++ (unitedWith rest).bindings = _
      rw [ih, List.nil_append, List.flatMap_cons]

theorem Query.bindings_united (own : Query) (parts : List (UnionKind × Query)) :
    (own.united parts).bindings = own.bindings ++ parts.flatMap fun part => part.2.bindings := by
  unfold united
  split
  · rename_i hempty
    rw [List.isEmpty_iff.1 hempty, List.flatMap_nil, List.append_nil]
  · change own.bindings ++ (unitedWith parts).bindings = _
    rw [bindings_unitedWith]

namespace SelectTree

theorem renderMembers_eq_ok {d : Dialect} {members : List (UnionKind × SelectTree)} {q : Query}
    (h : renderMembers d members = .ok q) :
    ∃ parts, List.Forall₂ (fun member part => part.1 = member.1 ∧ render d member.2 = .ok part.2) members parts ∧
      q = .unitedWith parts := by
  induction members generalizing q with
  | nil => exact ⟨[], .nil, (Except.ok.inj h).symm⟩
  | cons member rest ih =>
      obtain ⟨kind, tree⟩ := member
      rw [renderMembers] at h
      obtain ⟨front, hfront, h⟩ := exists_ok_of_bind h
      obtain ⟨back, hback, h⟩ := exists_ok_of_bind h
      obtain ⟨parts, hparts, rfl⟩ := ih hback
      exact ⟨(kind, front) :: parts, .cons ⟨rfl, hfront⟩ hparts, (Except.ok.inj h).symm⟩

theorem render_eq_ok {d : Dialect} {clauses : Clauses} {members : List (UnionKind × SelectTree)} {q : Query}
    (h : render d (.mk clauses members) = .ok q) :
    ∃ own parts, clauses.select d = .ok own ∧
      List.Forall₂ (fun member part => part.1 = member.1 ∧ render d member.2 = .ok part.2) members parts ∧
      q = own.united parts := by
  rw [render] at h
  obtain ⟨own, hown, h⟩ := exists_ok_of_bind h
  refine ⟨own, ?_⟩
  cases members with
  | nil => exact ⟨[], hown, .nil, (Except.ok.inj h).symm⟩
  | cons member rest =>
      obtain ⟨q', hmembers, h⟩ := exists_ok_of_bind h
      obtain ⟨parts, hparts, rfl⟩ := renderMembers_eq_ok hmembers
      refine ⟨parts, hown, hparts, ?_⟩
      cases hparts with
      | cons => exact (Except.ok.inj h).symm

end SelectTree

/-! ### Scripts that leave the unions alone -/

def Session.memberList (s : Session) (id : Nat) : List DraftUnion := (s.declared id).unions.getD []

namespace Session

/-- No builder gets another draft, and no draft other unions. -/
structure SameUnions (s t : Session) : Prop where
  builders : ∀ (id : Nat) (b : Builder), s.builders[id]? = some b →
    ∃ b' : Builder, t.builders[id]? = some b' ∧ b'.draft = b.draft
  drafts : ∀ (n : Nat) (d : Draft), s.drafts[n]? = some d → ∃ d', t.drafts[n]? = some d' ∧ d'.unions = d.unions
  engine : t.driver.engine = s.driver.engine

namespace SameUnions

theorem of_eq (hbuilders : t.builders = s.builders) (hdrafts : t.drafts = s.drafts)
    (hengine : t.driver.engine = s.driver.engine) : SameUnions s t where
  builders _ b hb := ⟨b, hbuilders ▸ hb, rfl⟩
  drafts _ d hd := ⟨d, hdrafts ▸ hd, rfl⟩
  engine := hengine

theorem trans (h : SameUnions s t) (h' : SameUnions t u) : SameUnions s u where
  builders id b hb := by
    obtain ⟨b', hb', hdraft⟩ := h.builders id b hb
    obtain ⟨b'', hb'', hdraft'⟩ := h'.builders id b' hb'
    exact ⟨b'', hb'', hdraft'.trans hdraft⟩
  drafts n d hd := by
    obtain ⟨d', hd', hunions⟩ := h.drafts n d hd
    obtain ⟨d'', hd'', hunions'⟩ := h'.drafts n d' hd'
    exact ⟨d'', hd'', hunions'.trans hunions⟩
  engine := h'.engine.trans h.engine

instance : IsPreorder Session SameUnions where
  refl _ := .of_eq rfl rfl rfl
  trans _ _ _ := trans

theorem of_keeping (h : Footprint.Keeping s t) : SameUnions s t where
  builders := h.builders
  drafts n d hd := ⟨d, (h.drafts n (Array.getElem?_eq_some_iff.1 hd).1).trans hd, rfl⟩
  engine := h.engine

theorem members (h : SameUnions s t) {b : Builder} (hb : s.builders[id]? = some b)
    (hdraft : b.draft < s.drafts.size) : t.memberList id = s.memberList id := by
  obtain ⟨b', hb', hsame⟩ := h.builders id b hb
  obtain ⟨d, hd, hunions⟩ := h.drafts b.draft _ (Array.getElem?_eq_getElem hdraft)
  unfold Session.memberList
  rw [declared_eq hb, declared_eq hb', hsame, hd, Array.getElem?_eq_getElem hdraft]
  exact congrArg (·.getD []) hunions

end SameUnions

end Session

/-- Whatever compiles leaves the unions alone as long as the scripts do. -/
theorem Act.Keeps.sameUnions [env.Keeps Session.SameUnions] : Making (Keeps Session.SameUnions env) :=
  Keeps.making (fun _ s => .of_keeping ((Footprint.Keeping.pushDraft s {}).trans (.pushBuilder _ _)))
    fun _ _ => .of_eq rfl rfl rfl

/-- The operation succeeds in the same way without the restriction of its scripts to the relation. -/
def Act.Widens (R : Session → Session → Prop) (env : Surroundings) (op : Act α) : Prop :=
  ∀ s x t, op.exec (env.within R) s = (.ok x, t) → op.exec env s = (.ok x, t)

theorem Run.widens {R : Session → Session → Prop} (op : Run α) {x : α} (h : (op.within R).run.run s = (.ok x, t)) :
    op.run.run s = (.ok x, t) := by
  by_cases hR : R s (op.run.run s).2
  · rw [← run_within_of_keeps hR, h]
  · rw [run_within_of_not hR] at h
    cases h

/-- Whatever compiles succeeds only if all the scripts do that it runs. -/
theorem Act.Widens.making {R : Session → Session → Prop} : Making (Widens R env) where
  pure _ _ _ _ h := h
  bind hop hk s y u h := by
    obtain ⟨x, t, hx, hy⟩ := exec_bind_eq_ok h
    rw [exec_bind_ok (hop s x t hx)]
    exact hk x t y u hy
  throw _ _ _ _ h := h
  lift outcome s x t h := by
    rw [exec_lift] at h ⊢
    exact h
  builder id s x t h := by
    rw [exec_builder] at h ⊢
    exact h
  draftAt _ _ _ _ h := h
  dialect _ _ _ h := h
  depth_bind {β k} hk hdepth s x t h := by
    have hread : ∀ env : Surroundings, (MonadReader.read >>= k : Act β).exec env s = (k env).exec env s := fun _ => rfl
    rw [hread, hdepth env (env.within R) rfl] at h
    rw [hread]
    exact hk env s x t h
  newBuilder _ _ _ _ h := h
  fill script target s x t h := Run.widens (env.fill script target) h
  notify name script call s x t h := Run.widens (env.notify name script call) h
  hookFor event table s x t h := by
    have hsame : Unscripted (Execute.hookFor event table) := by
      unfold Execute.hookFor
      split
      · exact .pure _
      · exact .bind (.lift _) fun _ _ _ _ => rfl
    rw [← hsame (env.within R) env s]
    exact h
  issued _ _ _ _ h := h
  remember _ _ _ _ h := h

theorem Act.Unscripted.widens {R : Session → Session → Prop} {op : Act α} (h : Unscripted op) : Widens R env op := by
  intro s x t hexec
  rw [← h (env.within R) env s]
  exact hexec

theorem Act.Widens.declaring :
    Declaring (fun _ => Widens R env) (fun _ => True) fun _ => True where
  making := making
  newBuilder_bind hf := making.bind (making.newBuilder _) hf
  draftOf_bind _ hf := making.bind (making.draftOf _) fun n => hf n trivial
  modifyDraftAt _ _ _ _ _ _ h := h
  drafting _ _ := by
    refine making.bind (making.draft _) fun _ => making.bind ?_ fun _ => making.lift _
    exact making.bind (making.draftOf _) fun _ _ _ _ h => h

theorem Act.Widens.modifyDraft (id : Nat) (f : Draft → Draft) : Widens R env (Act.modifyDraft id f) :=
  making.bind (making.draftOf _) fun _ _ _ _ h => h

theorem Act.Widens.clone (depth id : Nat) : Widens R env (Declare.clone depth id) :=
  making.toModular.clone making.throw making.builder making.draft (fun _ _ _ _ h => h) (fun _ _ _ _ h => h) _ _

/-- Without scripts everything is kept. -/
instance {R : Session → Session → Prop} [IsPreorder Session R] (depth : Nat) :
    (Surroundings.scriptless depth).Keeps R where
  fill _ _ := refl_of R
  notify _ _ _ := refl_of R

/-- Scripts that keep to the relation by themselves are not restricted by it. -/
theorem Act.Confined.of_keeps {R : Session → Session → Prop} [env.Keeps R] (op : Act α) (s : Session) :
    Confined R env op s := by
  have hsame : env.within R = env := by
    have hfill : (env.within R).fill = env.fill :=
      funext₂ fun script target => funext fun s => Run.run_within_of_keeps (Surroundings.Keeps.fill script target s)
    have hnotify : (env.within R).notify = env.notify :=
      funext₃ fun name script call => funext fun s =>
        Run.run_within_of_keeps (Surroundings.Keeps.notify name script call s)
    calc env.within R = ⟨(env.within R).fill, (env.within R).notify, env.depth⟩ := rfl
      _ = ⟨env.fill, env.notify, env.depth⟩ := by rw [hfill, hnotify]
  unfold Confined
  rw [hsame]

/-! ### Projections with their members -/

/-- The projection of a builder in writing, with a bound on how deep groups and unions may be nested. -/
def projected (depth id : Nat) : Act Query := do
  let dialect ← Act.dialect
  Act.lift ((← Resolve.select depth id).render dialect)

theorem exec_compile_select {b : Builder} (hb : s.builders[id]? = some b) :
    (compile id .select).exec env s = (projected env.depth id).exec env s := by
  unfold compile projected
  rw [exec_bind_ok exec_dialect, exec_bind_ok exec_dialect, exec_bind, exec_read]
  dsimp only
  rw [exec_bind_ok (exec_draftOf hb)]

namespace Resolve

variable {β : Type}

/-- Each entry has been made into one result, in a state in which the list was still the same. -/
theorem eachFrom_eq_ok {R : Session → Session → Prop} [IsPreorder Session R] {list : Draft → Option (List α)}
    {draft : Nat} {make : Nat → α → Act β} {entries : List α} (hmake : ∀ place x, Keeps R env (make place x))
    (hlist : ∀ t, R s t → (list (t.drafts[draft]?.getD {})).getD [] = entries) {fuel place : Nat} {made : List β}
    (ht : R s t) (h : (eachFrom list draft make fuel place).exec env t = (.ok made, u)) :
    List.Forall₂ (fun x y => ∃ place v w, R s v ∧ (make place x).exec env v = (.ok y, w))
      (entries.drop place) made := by
  induction fuel generalizing place t made with
  | zero => cases h
  | succ fuel ih =>
      have hread : (Act.draftAt draft).exec env t = (.ok (t.drafts[draft]?.getD {}), t) := rfl
      rw [eachFrom, exec_bind_ok hread, hlist t ht] at h
      rcases hentry : entries[place]? with _ | x
      · rw [hentry] at h
        cases h
        rw [List.drop_eq_nil_of_le (List.getElem?_eq_none_iff.1 hentry)]
        exact .nil
      · rw [hentry] at h
        obtain ⟨y, v, hy, h⟩ := exec_bind_eq_ok h
        obtain ⟨rest, w, hrest, h⟩ := exec_bind_eq_ok h
        cases h
        obtain ⟨hplace, rfl⟩ := List.getElem?_eq_some_iff.1 hentry
        rw [List.drop_eq_getElem_cons hplace]
        exact .cons ⟨place, t, v, ht, hy⟩ (ih (trans_of R ht ((hmake place _).of_exec hy)) hrest)

theorem each_eq_ok {R : Session → Session → Prop} [IsPreorder Session R] {list : Draft → Option (List α)} {draft : Nat}
    {make : Nat → α → Act β} {entries : List α} (hmake : ∀ place x, Keeps R env (make place x))
    (hlist : ∀ t, R s t → (list (t.drafts[draft]?.getD {})).getD [] = entries) {made : List β} (ht : R s t)
    (h : (each list draft make).exec env t = (.ok made, u)) :
    List.Forall₂ (fun x y => ∃ place v w, R s v ∧ (make place x).exec env v = (.ok y, w)) entries made := by
  have hread : (Act.draftAt draft).exec env t = (.ok (t.drafts[draft]?.getD {}), t) := rfl
  unfold each at h
  rw [exec_bind_ok hread] at h
  exact eachFrom_eq_ok hmake hlist ht h

/-- What a builder resolves to: its clauses, and what each of its members resolves to. -/
theorem select_eq_ok [env.Keeps Session.SameUnions] {depth : Nat} {tree : SelectTree} {b : Builder}
    (hb : s.builders[id]? = some b) (hdraft : b.draft < s.drafts.size)
    (h : (select depth id).exec env s = (.ok tree, t)) :
    ∃ clauses members v, tree = .mk clauses members ∧
      (selectClauses (depth - 1) b.draft).exec env s = (.ok clauses, v) ∧
      List.Forall₂ (fun u member => member.1 = u.kind ∧ ∃ v w, s.SameUnions v ∧
        (select (depth - 1) u.builder).exec env v = (.ok member.2, w)) (s.memberList id) members := by
  cases depth with
  | zero => cases h
  | succ depth =>
      rw [select, exec_bind_ok (exec_draftOf hb)] at h
      obtain ⟨clauses, v, hclauses, h⟩ := exec_bind_eq_ok h
      obtain ⟨members, w, hmembers, h⟩ := exec_bind_eq_ok h
      cases h
      refine ⟨clauses, members, v, rfl, hclauses, ?_⟩
      have hv : s.SameUnions v := (Keeps.sameUnions.selectClauses depth b.draft).of_exec hclauses
      have hlist : ∀ t, s.SameUnions t → ((t.drafts[b.draft]?.getD {}).unions).getD [] = s.memberList id := by
        intro t ht
        obtain ⟨d, hd, hunions⟩ := ht.drafts b.draft _ (Array.getElem?_eq_getElem hdraft)
        unfold Session.memberList
        rw [Session.declared_eq hb, hd, Array.getElem?_eq_getElem hdraft]
        exact congrArg (·.getD []) hunions
      have hmake : ∀ (_ : Nat) (u : DraftUnion), Keeps Session.SameUnions env
          (do pure (u.kind, ← select depth u.builder) : Act (UnionKind × SelectTree)) :=
        fun _ u => .bind (Keeps.sameUnions.select depth u.builder) fun _ => .pure _
      refine (each_eq_ok hmake hlist hv hmembers).imp fun u member hmember => ?_
      obtain ⟨place, v, w, hv, hmember⟩ := hmember
      obtain ⟨tree, w', htree, hmember⟩ := exec_bind_eq_ok hmember
      cases hmember
      exact ⟨rfl, v, _, hv, htree⟩

end Resolve

theorem forall₂_trans {β γ : Type} {R : α → β → Prop} {S : β → γ → Prop} {xs : List α} {ys : List β} {zs : List γ}
    (h : List.Forall₂ R xs ys) (h' : List.Forall₂ S ys zs) : List.Forall₂ (fun x z => ∃ y, R x y ∧ S y z) xs zs := by
  induction h generalizing zs with
  | nil =>
      cases h'
      exact .nil
  | cons hxy _ ih =>
      cases h' with
      | cons hyz hrest => exact .cons ⟨_, hxy, hyz⟩ (ih hrest)

theorem exists_mem_of_forall₂ {β : Type} {R : α → β → Prop} {xs : List α} {ys : List β} (h : List.Forall₂ R xs ys)
    {x : α} (hx : x ∈ xs) : ∃ y ∈ ys, R x y := by
  induction h with
  | nil => cases hx
  | cons hxy _ ih =>
      rcases List.mem_cons.1 hx with rfl | hx
      · exact ⟨_, List.mem_cons_self, hxy⟩
      · obtain ⟨y, hy, hxy⟩ := ih hx
        exact ⟨y, List.mem_cons_of_mem _ hy, hxy⟩

/-- A builder compiles to its own projection, with that of each of its members behind it once and in their order. -/
theorem compile_select_members {b : Builder} {q : Query} (hb : s.builders[id]? = some b)
    (hdraft : b.draft < s.drafts.size) (hscripts : Confined Session.SameUnions env (compile id .select) s)
    (h : (compile id .select).exec env s = (.ok q, t)) :
    ∃ clauses own parts v, (Resolve.selectClauses (env.depth - 1) b.draft).exec env s = (.ok clauses, v) ∧
      clauses.select (.ofEngine s.driver.engine) = .ok own ∧
      List.Forall₂ (fun u part => part.1 = u.kind ∧ ∃ v w, s.SameUnions v ∧
        (projected (env.depth - 1) u.builder).exec env v = (.ok part.2, w)) (s.memberList id) parts ∧
      q = own.united parts := by
  rw [← hscripts, exec_compile_select hb] at h
  change (projected env.depth id).exec (env.within Session.SameUnions) s = _ at h
  unfold projected at h
  rw [exec_bind_ok exec_dialect] at h
  obtain ⟨tree, u, htree, h⟩ := exec_bind_eq_ok h
  obtain ⟨clauses, members, v, rfl, hclauses, hmembers⟩ := Resolve.select_eq_ok hb hdraft htree
  rw [exec_lift] at h
  obtain ⟨own, parts, hown, hparts, hq⟩ := SelectTree.render_eq_ok (congrArg Prod.fst h)
  refine ⟨clauses, own, parts, v, Widens.making.selectClauses _ _ s clauses v hclauses, hown, ?_, hq⟩
  refine (forall₂_trans hmembers hparts).imp fun u part hpart => ?_
  obtain ⟨⟨kind, tree⟩, ⟨rfl, v, w, hv, htree⟩, hkind, hpart⟩ := hpart
  refine ⟨hkind, v, w, hv, ?_⟩
  unfold projected
  rw [exec_bind_ok exec_dialect, exec_bind_ok (Widens.making.select _ _ v tree w htree), exec_lift, hv.engine, hpart]

end SqlBuilder
