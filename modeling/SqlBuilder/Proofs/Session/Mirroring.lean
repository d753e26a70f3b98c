import SqlBuilder.Proofs.Session.Compile
import SqlBuilder.Proofs.Session.Footprint

/-!
What a builder compiles to depends on its footprint, on the engine, and on its groups. So as long as each group comes
to the same whenever it runs, a builder compiles to the same in all states that have the footprint in common, and so
does another builder whose draft mirrors the one of the first. The parts of a statement are compared in states of two
kinds, in which the drafts need not be the same.
-/

namespace SqlBuilder

open Act

variable {α β γ : Type} {P Q : Session → Prop} {env : Surroundings}

namespace Resolve

theorem alike_eachFrom {list : Draft → Option (List α)} {n n' : Nat} {d d' : Draft}
    (hd : ∀ s, P s → s.drafts[n]?.getD {} = d) (hd' : ∀ s, Q s → s.drafts[n']?.getD {} = d')
    {key key' : α → γ} (hkeys : ((list d').getD []).map key' = ((list d).getD []).map key) {make : Nat → α → Act β}
    (hmake : ∀ place e e', e ∈ (list d).getD [] → e' ∈ (list d').getD [] → key' e' = key e →
      Alike P Q env (make place e) (make place e')) (fuel place : Nat) :
    Alike P Q env (eachFrom list n make fuel place) (eachFrom list n' make fuel place) := by
  induction fuel generalizing place with
  | zero => exact .throw _
  | succ fuel ih =>
      refine .bind_of (.draftAt hd) (.draftAt hd') ?_
      have hplace := congrArg (fun keys => keys[place]?) hkeys
      rw [List.getElem?_map, List.getElem?_map] at hplace
      cases he : ((list d).getD [])[place]? with
      | none =>
          rw [he, Option.map_none, Option.map_eq_none_iff] at hplace
          rw [hplace]
          exact .pure _
      | some e =>
          rw [he, Option.map_some] at hplace
          obtain ⟨e', he', hkey⟩ := Option.map_eq_some_iff.1 hplace
          rw [he']
          refine .bind (hmake place e e' (List.mem_of_getElem? he) (List.mem_of_getElem? he') hkey) fun made => ?_
          exact .bind (ih (place + 1)) fun rest => .pure _

theorem alike_each {list : Draft → Option (List α)} {n n' : Nat} {d d' : Draft}
    (hd : ∀ s, P s → s.drafts[n]?.getD {} = d) (hd' : ∀ s, Q s → s.drafts[n']?.getD {} = d')
    {key key' : α → γ} (hkeys : ((list d').getD []).map key' = ((list d).getD []).map key) {make : Nat → α → Act β}
    (hmake : ∀ place e e', e ∈ (list d).getD [] → e' ∈ (list d').getD [] → key' e' = key e →
      Alike P Q env (make place e) (make place e')) :
    Alike P Q env (each list n make) (each list n' make) := by
  have hlength : ((list d').getD []).length = ((list d).getD []).length := by
    rw [← List.length_map key', hkeys, List.length_map]
  refine .bind_of (.draftAt hd) (.draftAt hd') ?_
  rw [hlength]
  exact alike_eachFrom hd hd' hkeys hmake _ _

theorem alike_criterion {depth : Nat} {isFirst : Bool} {c : Criterion}
    (hgroup : ∀ script, c.key = .group script →
      Alike P Q env (members depth script) (members depth script)) :
    Alike P Q env (criterion (members depth) isFirst c) (criterion (members depth) isFirst c) := by
  refine .bind (.lift _) fun joint => ?_
  split
  · exact .pure _
  · split
    · split
      · rename_i script hkey
        exact .bind (hgroup script hkey) fun _ => .pure _
      · exact .throw _
      · exact .throw _
    · exact .pure _

/-! ### States of two kinds -/

section Sustained

variable {p : Footprint} {s : Session} (hP : ∀ t, P t → p.Sustains s t)

include hP

theorem draftAt_eq {n : Nat} (hn : n ∈ p.drafts) {t : Session} (ht : P t) :
    t.drafts[n]?.getD {} = s.drafts[n]?.getD {} := by rw [(hP t ht).drafts n hn]

theorem settled_draftAt {n : Nat} (hn : n ∈ p.drafts) :
    Settled P env (Act.draftAt n) (.ok (s.drafts[n]?.getD {})) := .draftAt fun _ ht => draftAt_eq hP hn ht

theorem settled_draftOf {id : Nat} (hid : p.Names s id) {b : Builder} (hb : s.builders[id]? = some b) :
    Settled P env (Act.draftOf id) (.ok b.draft) := .draftOf fun t ht => (hP t ht).builders id hid b hb

end Sustained

section Compared

variable {p : Footprint} {s t : Session} (h : p.Compares env P Q s t)

include h

theorem alike_dialect : Alike P Q env Act.dialect Act.dialect :=
  ⟨_, .dialect fun u hu => (h.left u hu).engine, .dialect fun u hu => (h.right u hu).engine.trans h.engine⟩

theorem alike_criteria {depth : Nat} {qualifier : Option String} {isBound : Bool}
    {list : Draft → Option (List Criterion)} {n n' : Nat} (hn : n ∈ p.drafts) (hn' : n' ∈ p.drafts)
    (hsame : list (t.drafts[n']?.getD {}) = list (s.drafts[n]?.getD {}))
    (hmem : ∀ d, ∀ c ∈ (list d).getD [], c ∈ d.conditions) :
    Alike P Q env (criteria (members depth) qualifier isBound list n)
      (criteria (members depth) qualifier isBound list n') := by
  have hkeys : ((list (t.drafts[n']?.getD {})).getD []).map id = ((list (s.drafts[n]?.getD {})).getD []).map id := by
    rw [hsame]
  refine .bind (alike_each (fun u hu => draftAt_eq h.left hn hu) (fun u hu => draftAt_eq h.right hn' hu) hkeys ?_)
    fun made => ?_
  · rintro place c c' hc - hkey
    obtain rfl : c' = c := hkey
    refine .bind (alike_criterion fun script hkey => h.groups n hn c' (hmem _ c' hc) script hkey depth)
      fun condition => ?_
    exact .bind (alike_dialect h) fun dialect => .bind (.check _) fun _ => .pure _
  · dsimp only
    split
    · exact .throw_bind _ _ _
    · exact .pure _

theorem alike_join {depth n n' : Nat} (hn : p.Holds s n) (hn' : p.Holds t n') {j j' : DraftJoin}
    (hj : j ∈ (s.drafts[n]?.getD {}).joins.getD []) (hj' : j' ∈ (t.drafts[n']?.getD {}).joins.getD [])
    (hsame : t.outline j' = s.outline j) : Alike P Q env (join depth j) (join depth j') := by
  obtain ⟨kind, table, builder⟩ := j
  obtain ⟨kind', table', builder'⟩ := j'
  obtain rfl : kind' = kind := congrArg (fun outline => outline.1) hsame
  obtain rfl : table' = table := congrArg (fun outline => outline.2.1) hsame
  have hcriteria : (builder'.map fun k => (t.declared k).criteria) =
      builder.map fun k => (s.declared k).criteria := congrArg (fun outline => outline.2.2) hsame
  have hconditions : Alike P Q env
      (builder.mapM fun k => do criteria (members depth) none false (·.criteria) (← Act.draftOf k))
      (builder'.mapM fun k => do criteria (members depth) none false (·.criteria) (← Act.draftOf k)) := by
    cases builder with
    | none =>
        obtain rfl := Option.map_eq_none_iff.1 hcriteria
        exact .pure _
    | some k =>
        obtain ⟨k', rfl, hdeclared⟩ := Option.map_eq_some_iff.1 hcriteria
        change (t.declared k').criteria = (s.declared k).criteria at hdeclared
        obtain ⟨b, hb, hdraft⟩ := hn.join _ hj k rfl
        obtain ⟨b', hb', hdraft'⟩ := hn'.join _ hj' k' rfl
        rw [Session.declared_eq hb, Session.declared_eq hb'] at hdeclared
        have hk : p.Names s k := .inr ⟨n, hn.draft, _, hj, rfl⟩
        have hk' : p.Names t k' := .inr ⟨n', hn'.draft, _, hj', rfl⟩
        refine .bind (.bind_of (settled_draftOf h.left hk hb) (settled_draftOf h.right hk' hb') ?_) fun _ => .pure _
        exact alike_criteria h hdraft hdraft' hdeclared fun d c hc =>
          List.mem_append_left _ (List.mem_append_right _ hc)
  refine .bind (alike_dialect h) fun dialect => .bind (.check _) fun _ => .bind hconditions fun conditions => ?_
  dsimp only
  split
  · exact .bind (.check _) fun _ => .pure _
  · exact .throw _

theorem alike_joins {n n' : Nat} (hn : p.Holds s n) (hn' : p.Holds t n')
    (hsame : ((t.drafts[n']?.getD {}).joins.getD []).map t.outline =
      ((s.drafts[n]?.getD {}).joins.getD []).map s.outline) (depth : Nat) :
    Alike P Q env (joins depth n) (joins depth n') := by
  refine alike_each (fun u hu => draftAt_eq h.left hn.draft hu) (fun u hu => draftAt_eq h.right hn'.draft hu) hsame
    fun _ j j' hj hj' hsame => ?_
  exact alike_join h hn hn' hj hj' hsame

variable {n n' : Nat} (hn : n ∈ p.drafts) (hn' : n' ∈ p.drafts)

include hn hn'

theorem alike_wheres (hsame : (t.drafts[n']?.getD {}).wheres = (s.drafts[n]?.getD {}).wheres) (depth : Nat)
    (qualifier : Option String) :
    Alike P Q env (bound depth qualifier (·.wheres) n) (bound depth qualifier (·.wheres) n') :=
  alike_criteria h hn hn' hsame fun _ _ hc => List.mem_append_left _ (List.mem_append_left _ hc)

theorem alike_havings (hsame : (t.drafts[n']?.getD {}).havings = (s.drafts[n]?.getD {}).havings) (depth : Nat)
    (qualifier : Option String) :
    Alike P Q env (bound depth qualifier (·.havings) n) (bound depth qualifier (·.havings) n') :=
  alike_criteria h hn hn' hsame fun _ _ hc => List.mem_append_right _ hc

theorem alike_groupBys (hsame : (t.drafts[n']?.getD {}).groupBys = (s.drafts[n]?.getD {}).groupBys) :
    Alike P Q env (groupBys n) (groupBys n') := by
  refine .bind_of (settled_draftAt h.left hn) (settled_draftAt h.right hn') ?_
  rw [hsame]
  exact .bind (alike_dialect h) fun _ => .bind (.check _) fun _ => .pure _

theorem alike_orderBys (hsame : (t.drafts[n']?.getD {}).orderBys = (s.drafts[n]?.getD {}).orderBys) :
    Alike P Q env (orderBys n) (orderBys n') := by
  refine .bind_of (settled_draftAt h.left hn) (settled_draftAt h.right hn') ?_
  rw [hsame]
  exact .bind (alike_dialect h) fun _ => .bind (.check _) fun _ => .pure _

end Compared

/-! ### Drafts that mirror each other -/

section Session

variable {p : Footprint} {s : Session}

section Mirrors

variable {n n' : Nat} (h : p.Compares env P P s s) (hn : p.Holds s n) (hn' : p.Holds s n')
  (hmirrors : Draft.Mirrors s (s.drafts[n]?.getD {}) (s.drafts[n']?.getD {}))

include h hn hn' hmirrors

theorem alike_pages (c : Clauses) : Alike P P env (do pure (withPages c (← Act.draftAt n)))
    (do pure (withPages c (← Act.draftAt n'))) := by
  refine .bind_of (settled_draftAt h.left hn.draft) (settled_draftAt h.left hn'.draft) ?_
  rw [hmirrors.read (withPages c) fun _ _ => rfl]
  exact .pure _

theorem alike_selectClauses (depth : Nat) : Alike P P env (selectClauses depth n) (selectClauses depth n') := by
  refine .bind (alike_dialect h) fun dialect => ?_
  refine .bind_of (settled_draftAt h.left hn.draft) (settled_draftAt h.left hn'.draft) ?_
  rw [hmirrors.read opening fun _ _ => rfl]
  refine .bind (.check _) fun _ => .bind (.check _) fun _ => .bind (.lift _) fun qualifier => ?_
  refine .bind (alike_joins h hn hn' hmirrors.joins depth) fun joins => ?_
  refine .bind (alike_wheres h hn.draft hn'.draft (hmirrors.read (·.wheres) fun _ _ => rfl) depth qualifier)
    fun wheres => ?_
  refine .bind (alike_groupBys h hn.draft hn'.draft (hmirrors.read (·.groupBys) fun _ _ => rfl)) fun groupBys => ?_
  refine .bind (alike_havings h hn.draft hn'.draft (hmirrors.read (·.havings) fun _ _ => rfl) depth qualifier)
    fun havings => ?_
  refine .bind (alike_orderBys h hn.draft hn'.draft (hmirrors.read (·.orderBys) fun _ _ => rfl)) fun orderBys => ?_
  refine .bind_of (settled_draftAt h.left hn.draft) (settled_draftAt h.left hn'.draft) ?_
  rw [hmirrors.read (withPages _) fun _ _ => rfl]
  exact .bind (.check _) fun _ => .pure _

theorem alike_updateClauses (depth : Nat) (data : Value) :
    Alike P P env (updateClauses depth n data) (updateClauses depth n' data) := by
  refine .bind (alike_dialect h) fun dialect => ?_
  refine .bind_of (settled_draftAt h.left hn.draft) (settled_draftAt h.left hn'.draft) ?_
  rw [hmirrors.read opening fun _ _ => rfl]
  dsimp only
  split
  · exact .throw_bind _ _ _
  · refine .bind (.lift _) fun table => .bind (.lift _) fun qualifier => .bind (.check _) fun _ => ?_
    refine .bind (alike_joins h hn hn' hmirrors.joins depth) fun joins => ?_
    split
    · refine .bind (.check _) fun _ => ?_
      refine .bind (alike_wheres h hn.draft hn'.draft (hmirrors.read (·.wheres) fun _ _ => rfl) depth qualifier)
        fun wheres => ?_
      refine .bind (alike_groupBys h hn.draft hn'.draft (hmirrors.read (·.groupBys) fun _ _ => rfl)) fun groupBys => ?_
      refine .bind (alike_orderBys h hn.draft hn'.draft (hmirrors.read (·.orderBys) fun _ _ => rfl)) fun orderBys => ?_
      exact alike_pages h hn hn' hmirrors _
    · exact .throw _

theorem alike_deleteClauses (depth : Nat) : Alike P P env (deleteClauses depth n) (deleteClauses depth n') := by
  refine .bind_of (settled_draftAt h.left hn.draft) (settled_draftAt h.left hn'.draft) ?_
  rw [hmirrors.read opening fun _ _ => rfl]
  refine .bind (.check _) fun _ => .bind (alike_joins h hn hn' hmirrors.joins depth) fun joins => ?_
  refine .bind (alike_wheres h hn.draft hn'.draft (hmirrors.read (·.wheres) fun _ _ => rfl) depth none) fun wheres => ?_
  refine .bind (alike_groupBys h hn.draft hn'.draft (hmirrors.read (·.groupBys) fun _ _ => rfl)) fun groupBys => ?_
  refine .bind (alike_orderBys h hn.draft hn'.draft (hmirrors.read (·.orderBys) fun _ _ => rfl)) fun orderBys => ?_
  exact alike_pages h hn hn' hmirrors _

end Mirrors

/-- The projections of two builders that mirror each other are alike, with all that they are united with. -/
theorem alike_select (h : p.Compares env P P s s) (hclosed : p.Closed s) (depth : Nat) {id id' : Nat}
    (hid : id ∈ p.builders) (hid' : id' ∈ p.builders) (hmirrors : Draft.Mirrors s (s.declared id) (s.declared id')) :
    Alike P P env (select depth id) (select depth id') := by
  induction depth generalizing id id' with
  | zero => exact .throw _
  | succ depth ih =>
      obtain ⟨b, hb, hn, hunions⟩ := hclosed.builder id hid
      obtain ⟨b', hb', hn', -⟩ := hclosed.builder id' hid'
      rw [Session.declared_eq hb, Session.declared_eq hb'] at hmirrors
      refine .bind_of (settled_draftOf h.left (.inl hid) hb) (settled_draftOf h.left (.inl hid') hb') ?_
      refine .bind (alike_selectClauses h hn hn' hmirrors depth) fun clauses => .bind ?_ fun _ => .pure _
      have hsame := hmirrors.read (fun d => (d.unions.getD []).map fun u => u) fun _ _ => rfl
      refine alike_each (fun t ht => draftAt_eq h.left hn.draft ht) (fun t ht => draftAt_eq h.left hn'.draft ht) hsame
        fun _ u u' hu _ hkey => ?_
      obtain rfl : u' = u := hkey
      exact .bind (ih (hunions u' hu) (hunions u' hu) (.refl _ _)) fun _ => .pure _

/-- Two builders that mirror each other compile to the same. -/
theorem alike_compile (hP : ∀ t, P t → p.Sustains s t) (hsteady : p.Steady env P s) (hclosed : p.Closed s)
    {id id' : Nat} (hid : id ∈ p.builders) (hid' : id' ∈ p.builders)
    (hmirrors : Draft.Mirrors s (s.declared id) (s.declared id')) (request : StatementRequest) :
    Alike P P env (compile id request) (compile id' request) := by
  have h : p.Compares env P P s s := ⟨hP, hP, rfl, hsteady.concordant⟩
  obtain ⟨b, hb, hn, -⟩ := hclosed.builder id hid
  obtain ⟨b', hb', hn', -⟩ := hclosed.builder id' hid'
  have hdrafts := hmirrors
  rw [Session.declared_eq hb, Session.declared_eq hb'] at hdrafts
  have hread : Alike P P env MonadReader.read MonadReader.read := .of_settled fun s hs => ⟨s, rfl, hs⟩
  rw [compile_eq, compile_eq]
  refine .bind (alike_dialect h) fun dialect => .bind ?_ fun tree => .lift _
  unfold StatementRequest.resolve
  refine .bind hread fun surroundings => ?_
  refine .bind_of (settled_draftOf h.left (.inl hid) hb) (settled_draftOf h.left (.inl hid') hb') ?_
  cases request with
  | select => exact .bind (alike_select h hclosed _ hid hid' hmirrors) fun _ => .pure _
  | insert verb data =>
      refine .bind_of (settled_draftAt h.left hn.draft) (settled_draftAt h.left hn'.draft) ?_
      rw [hdrafts.read opening fun _ _ => rfl]
      exact .pure _
  | update data => exact .bind (alike_updateClauses h hn hn' hdrafts _ _) fun _ => .pure _
  | delete columns => exact .bind (alike_deleteClauses h hn hn' hdrafts _) fun _ => .pure _
  | conditions isBound =>
      refine .bind (alike_criteria h hn.draft hn'.draft (hdrafts.read (·.criteria) fun _ _ => rfl)
        fun d c hc => ?_) fun _ => .pure _
      exact List.mem_append_left _ (List.mem_append_right _ hc)

end Session

end Resolve

namespace Session.Linked

variable {id : Nat} {s t u : Session} (hs : s.Linked) (hid : id < s.builders.size)
  (hP : ∀ t, P t → (s.footprint id).Sustains s t) (hsteady : (s.footprint id).Steady env P s)

include hs hid hP hsteady

/-- In all states that have its footprint in common a builder compiles to the same. -/
theorem settled_compile (request : StatementRequest) : ∃ outcome, Settled P env (compile id request) outcome := by
  obtain ⟨outcome, hsettled, -⟩ := Resolve.alike_compile hP hsteady (hs.closed_footprint hid) (s.mem_footprint id)
    (s.mem_footprint id) (.refl _ _) request
  exact ⟨outcome, hsettled⟩

theorem outcome_compile (ht : P t) (hu : P u) (request : StatementRequest) :
    ((compile id request).exec env u).1 = ((compile id request).exec env t).1 := by
  obtain ⟨outcome, hsettled⟩ := hs.settled_compile hid hP hsteady request
  exact (Alike.of_settled hsettled).outcome_eq ht hu

end Session.Linked

end SqlBuilder
