import SqlBuilder.Proofs.Session.Cloning
import SqlBuilder.Proofs.Session.Swapping

/-!
A projection that asks for one row. A builder whose draft declares the same as another one, but for a limit of one row,
compiles to the statement of the other with that limit in place of its own. What it is united with keeps its limits.
-/

namespace SqlBuilder

open Act

variable {α β : Type} {P : Session → Prop} {env : Surroundings} {s t : Session} {n n' : Nat}

/-! ### Trees -/

def Clauses.capped (c : Clauses) : Clauses := { c with limit := some (.int 1) }

/-- The number one can be written wherever an engine takes it. -/
theorem Clauses.select_capped {d : Dialect} {c : Clauses} {q : Query} (h : c.select d = .ok q) :
    ∃ q', c.capped.select d = .ok q' := by
  rw [select_eq] at h ⊢
  obtain ⟨distinct, hdistinct, h⟩ := exists_ok_of_bind h
  obtain ⟨parts, hparts, h⟩ := exists_ok_of_bind h
  obtain ⟨top, -, h⟩ := exists_ok_of_bind h
  obtain ⟨pages, hpages, h⟩ := exists_ok_of_bind h
  obtain ⟨lock, hlock, -⟩ := exists_ok_of_bind h
  have hdistinct' : c.capped.distinctClause d = .ok distinct := hdistinct
  have hparts' : c.capped.selectParts d = .ok parts := hparts
  have hlock' : c.capped.lock d = .ok lock := hlock
  obtain ⟨top', htop⟩ : ∃ top', c.capped.top d = .ok top' := by
    unfold Clauses.top
    split
    · exact ⟨_, rfl⟩
    · exact ⟨_, rfl⟩
  obtain ⟨pages', hpages'⟩ : ∃ pages', c.capped.pages d = .ok pages' := by
    unfold Clauses.pages at hpages ⊢
    split at hpages
    · obtain ⟨limit, -, hpages⟩ := exists_ok_of_bind hpages
      obtain ⟨offset, hoffset, -⟩ := exists_ok_of_bind hpages
      refine ⟨[.plain ("LIMIT 1" ++ ""), .plain offset], ?_⟩
      change (counted "OFFSET " c.offset "" >>= fun offset =>
        pure [Query.plain ("LIMIT 1" ++ ""), .plain offset]) = _
      rw [hoffset]
      rfl
    · exact ⟨pages, hpages⟩
  rw [hdistinct', hparts', htop, hpages', hlock']
  exact ⟨_, rfl⟩

/-- The projection with one row as its limit, united with the same ones as before. -/
def SelectTree.capped : SelectTree → SelectTree
  | .mk clauses members => .mk clauses.capped members

theorem SelectTree.render_capped {d : Dialect} {tree : SelectTree} {q : Query} (h : tree.render d = .ok q) :
    ∃ q', tree.capped.render d = .ok q' := by
  obtain ⟨clauses, members⟩ := tree
  unfold SelectTree.capped
  unfold render at h ⊢
  obtain ⟨own, hown, h⟩ := exists_ok_of_bind h
  obtain ⟨own', hown'⟩ := Clauses.select_capped hown
  rw [hown']
  cases members with
  | nil => exact ⟨_, rfl⟩
  | cons member rest =>
      obtain ⟨back, hback, -⟩ := exists_ok_of_bind h
      refine ⟨own'.enclosed ++ back, ?_⟩
      change (renderMembers d (member :: rest) >>= fun back => pure (own'.enclosed ++ back)) = _
      rw [hback]
      rfl

/-! ### Drafts -/

def Draft.capped (d : Draft) : Draft := { d with limit := some (.int 1) }

namespace Session

def capped (s : Session) (n : Nat) : Session := { s with drafts := s.drafts.modify n Draft.capped }

/-- What is read of a draft apart from its limit is the same. -/
theorem read_capped (s : Session) (n : Nat) {f : Draft → α} (hf : ∀ d : Draft, f d.capped = f d) (m : Nat) :
    f ((s.capped n).drafts[m]?.getD {}) = f (s.drafts[m]?.getD {}) := read_modify s.drafts n hf m

theorem declared_capped (s : Session) (n : Nat) {f : Draft → α} (hf : ∀ d : Draft, f d.capped = f d) (k : Nat) :
    f ((s.capped n).declared k) = f (s.declared k) := by
  have hbuilders : (s.capped n).builders = s.builders := rfl
  unfold declared
  rw [hbuilders]
  cases s.builders[k]? with
  | none => rfl
  | some b => exact read_capped s n hf b.draft

theorem declared_capped_self {k : Nat} {b : Builder} (hb : s.builders[k]? = some b) (hdraft : b.draft < s.drafts.size) :
    (s.capped b.draft).declared k = (s.declared k).capped := by
  have hb' : (s.capped b.draft).builders[k]? = some b := hb
  rw [declared_eq hb, declared_eq hb']
  unfold capped
  rw [Array.getElem?_modify, if_pos rfl, Array.getElem?_eq_getElem hdraft]
  rfl

theorem outline_capped (s : Session) (n : Nat) (j : DraftJoin) : (s.capped n).outline j = s.outline j := by
  have hcriteria : ∀ k, ((s.capped n).declared k).criteria = (s.declared k).criteria :=
    declared_capped s n (f := (·.criteria)) fun _ => rfl
  unfold outline
  simp only [hcriteria]

theorem footprint_capped (s : Session) (n id : Nat) : (s.capped n).footprint id = s.footprint id := by
  have hunites : (s.capped n).Unites = s.Unites := by
    unfold Unites
    refine congrArg Relation.ReflTransGen (funext₂ fun m m' => ?_)
    rw [declared_capped s n (f := fun d => d.unions.getD []) fun _ => rfl]
  have howns : (s.capped n).Owns = s.Owns := by
    unfold Owns
    refine funext₂ fun m m' => ?_
    rw [declared_capped s n (f := fun d => d.joins.getD []) fun _ => rfl]
    rfl
  unfold footprint
  rw [hunites, howns]

theorem Linked.capped (h : s.Linked) (n : Nat) : (s.capped n).Linked :=
  h.modifyDraft n (fun _ _ _ hj => .inl hj) fun _ _ _ hu => .inl hu

end Session

/-- A draft that declares the same as the other one still does so where another draft, or its own, is capped. -/
theorem Draft.Mirrors.capped {d d' : Draft} (h : Draft.Mirrors s d d') (n : Nat) :
    Draft.Mirrors (s.capped n) d d' := by
  refine ⟨h.same, ?_⟩
  rw [List.map_congr_left fun j _ => Session.outline_capped s n j,
    List.map_congr_left fun j _ => Session.outline_capped s n j]
  exact h.joins

/-! ### Projections -/

namespace Resolve

variable {p : Footprint} {d : Draft}

section Clauses

variable (h : p.Compares env P P s s) (hn : p.Holds s n) (hn' : p.Holds s n') (hd : s.drafts[n']?.getD {} = d.capped)
  (hmirrors : Draft.Mirrors s (s.drafts[n]?.getD {}) d)

include h hn hn' hd hmirrors

theorem follows_selectClauses_capped (depth : Nat) :
    Follows P P (fun c c' => c' = c.capped) env (selectClauses depth n) (selectClauses depth n') := by
  have hread : ∀ {γ : Type} (f : Draft → γ), (∀ d : Draft, f d.capped = f d) →
      (∀ (d : Draft) joins, f { d with joins } = f d) → f (s.drafts[n']?.getD {}) = f (s.drafts[n]?.getD {}) := by
    intro γ f hcapped hjoins
    rw [hd, hcapped]
    exact hmirrors.read f hjoins
  have houtlines : ((s.drafts[n']?.getD {}).joins.getD []).map s.outline =
      ((s.drafts[n]?.getD {}).joins.getD []).map s.outline := by
    rw [hd]
    exact hmirrors.joins
  have hdrafts : Follows P P (fun own own' => own = s.drafts[n]?.getD {} ∧ own' = d.capped) env (Act.draftAt n)
      (Act.draftAt n') := by
    rw [← hd]
    exact .of_settled (settled_draftAt h.left hn.draft) (settled_draftAt h.left hn'.draft) ⟨rfl, rfl⟩
  have hopening : opening d.capped = opening (s.drafts[n]?.getD {}) := hmirrors.read opening fun _ _ => rfl
  refine .bind (.of_alike (alike_dialect h)) fun dialect _ hdialect => ?_
  subst hdialect
  refine .bind hdrafts fun own own' hown => ?_
  obtain ⟨rfl, rfl⟩ := hown
  rw [hopening]
  refine .bind (.check fun x hx => ⟨x, hx⟩) fun _ _ _ => .bind (.check fun x hx => ⟨x, hx⟩) fun _ _ _ => ?_
  refine .bind (.lift (R := Eq) fun x hx => ⟨x, hx, rfl⟩) fun qualifier _ hqualifier => ?_
  subst hqualifier
  refine .bind (.of_alike (alike_joins h hn hn' houtlines depth)) fun joins _ hjoins => ?_
  refine .bind (.of_alike (alike_wheres h hn.draft hn'.draft
    (hread (·.wheres) (fun _ => rfl) fun _ _ => rfl) depth qualifier)) fun wheres _ hwheres => ?_
  refine .bind (.of_alike (alike_groupBys h hn.draft hn'.draft (hread (·.groupBys) (fun _ => rfl) fun _ _ => rfl)))
    fun groups _ hgroups => ?_
  refine .bind (.of_alike (alike_havings h hn.draft hn'.draft
    (hread (·.havings) (fun _ => rfl) fun _ _ => rfl) depth qualifier)) fun havings _ hhavings => ?_
  refine .bind (.of_alike (alike_orderBys h hn.draft hn'.draft (hread (·.orderBys) (fun _ => rfl) fun _ _ => rfl)))
    fun orders _ horders => ?_
  subst hjoins hwheres hgroups hhavings horders
  refine .bind hdrafts fun own own' hown => ?_
  obtain ⟨rfl, rfl⟩ := hown
  have hpages : ∀ c : Clauses, withPages c d.capped = (withPages c (s.drafts[n]?.getD {})).capped := by
    intro c
    rw [← hmirrors.read (withPages c) fun _ _ => rfl]
    rfl
  rw [hpages]
  exact .bind (.check fun q hq => Clauses.select_capped hq) fun _ _ _ => .pure rfl

end Clauses

/-- The projection of the second builder is that of the first with one row as its limit. -/
theorem follows_select_capped (h : p.Compares env P P s s) (hclosed : p.Closed s) {id id' : Nat}
    (hid : id ∈ p.builders) (hid' : id' ∈ p.builders) (hd : s.declared id' = d.capped)
    (hmirrors : Draft.Mirrors s (s.declared id) d) (depth : Nat) :
    Follows P P (fun tree tree' => tree' = tree.capped) env (select depth id) (select depth id') := by
  cases depth with
  | zero => exact fun _ _ _ _ hexec => nomatch hexec
  | succ depth =>
      obtain ⟨b, hb, hn, hunions⟩ := hclosed.builder id hid
      obtain ⟨b', hb', hn', -⟩ := hclosed.builder id' hid'
      rw [Session.declared_eq hb'] at hd
      rw [Session.declared_eq hb] at hmirrors
      have hdraft : Follows P P (fun m m' => m = b.draft ∧ m' = b'.draft) env (Act.draftOf id) (Act.draftOf id') :=
        .of_settled (settled_draftOf h.left (.inl hid) hb) (settled_draftOf h.left (.inl hid') hb') ⟨rfl, rfl⟩
      refine .bind hdraft fun m m' hm => ?_
      obtain ⟨rfl, rfl⟩ := hm
      refine .bind (follows_selectClauses_capped h hn hn' hd hmirrors depth) fun clauses clauses' hclauses => ?_
      subst hclauses
      have hsame : ((s.drafts[b'.draft]?.getD {}).unions.getD []).map (fun u => u) =
          ((s.drafts[b.draft]?.getD {}).unions.getD []).map fun u => u := by
        rw [hd]
        exact hmirrors.read (fun d => (d.unions.getD []).map fun u => u) fun _ _ => rfl
      refine .bind (.of_alike (alike_each (fun t ht => draftAt_eq h.left hn.draft ht)
        (fun t ht => draftAt_eq h.left hn'.draft ht) hsame fun _ u u' hu _ hkey => ?_)) fun members _ hmembers => ?_
      · obtain rfl : u' = u := hkey
        exact .bind (alike_select h hclosed depth (hunions u' hu) (hunions u' hu) (.refl _ _)) fun _ => .pure _
      · subst hmembers
        exact .pure rfl

/-- What a builder compiles to is a tree in writing. -/
theorem exists_tree {id : Nat} {b : Builder} {q : Query} (hb : s.builders[id]? = some b)
    (hq : ((compile id .select).exec env s).1 = .ok q) : ∃ tree t,
      (select env.depth id).exec env s = (.ok tree, t) ∧ tree.render (.ofEngine s.driver.engine) = .ok q := by
  rw [exec_compile_select hb] at hq
  unfold projected at hq
  rw [exec_bind_ok exec_dialect, exec_bind] at hq
  rcases htree : (select env.depth id).exec env s with ⟨outcome, t⟩
  rw [htree] at hq
  cases outcome with
  | error fault => cases hq
  | ok tree =>
      dsimp only at hq
      rw [exec_lift] at hq
      exact ⟨tree, t, rfl, hq⟩

/-- In all of the states the second builder compiles to the statement of the first with one row as its limit. -/
theorem settled_compile_capped (h : p.Compares env P P s s) (hclosed : p.Closed s) {id id' : Nat}
    (hid : id ∈ p.builders) (hid' : id' ∈ p.builders) (hd : s.declared id' = d.capped)
    (hmirrors : Draft.Mirrors s (s.declared id) d) (hs : P s) {q : Query}
    (hq : ((compile id .select).exec env s).1 = .ok q) : ∃ tree probe,
      ((select env.depth id).exec env s).1 = .ok tree ∧ tree.render (.ofEngine s.driver.engine) = .ok q ∧
      tree.capped.render (.ofEngine s.driver.engine) = .ok probe ∧
      Settled P env (compile id' .select) (.ok probe) := by
  obtain ⟨b, hb, -⟩ := hclosed.builder id hid
  obtain ⟨b', hb', -⟩ := hclosed.builder id' hid'
  obtain ⟨tree, u, htree, hrender⟩ := exists_tree hb hq
  obtain ⟨probe, hprobe⟩ := SelectTree.render_capped hrender
  obtain ⟨-, _, rfl, hsettled⟩ := follows_select_capped h hclosed hid hid' hd hmirrors env.depth s tree u hs htree
  refine ⟨tree, probe, congrArg Prod.fst htree, hrender, hprobe, fun t ht => ?_⟩
  obtain ⟨b'', hb'', -⟩ := (h.left t ht).builders id' (.inl hid') b' hb'
  obtain ⟨v, hv, hPv⟩ := hsettled t ht
  refine ⟨v, ?_, hPv⟩
  rw [exec_compile_select hb'']
  unfold projected
  rw [exec_bind_ok exec_dialect, exec_bind_ok hv, exec_lift, (h.left t ht).engine, hprobe]

end Resolve

end SqlBuilder
