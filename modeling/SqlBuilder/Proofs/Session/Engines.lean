import Mathlib.Data.List.Forall2
import SqlBuilder.Proofs.Session.Compile
import SqlBuilder.Proofs.Session.Footprint
import SqlBuilder.Proofs.Statement.Dialects

/-!
The same builders on the connections of two engines. As long as the scripts of groups do the same for both, so does
every compilation: it comes to the same tree, or fails in the same way at the same place. So the compiled statements
have the same values, and their texts differ as the dialects do.
-/

namespace SqlBuilder

open Act

variable {α β γ δ : Type} {p : Footprint} {e e' : Engine} {env : Surroundings}

/-- Both engines take what the draft declares. -/
def Draft.Portable (e e' : Engine) (d : Draft) : Prop := (Resolve.withPages (Resolve.opening d) d).Portable e e'

/-- The same session on two connections, but for what has been sent and recorded. The parts have the drafts of their
builders and all that these are united with, and both engines take what they declare. -/
structure Session.Twins (p : Footprint) (e e' : Engine) (s s' : Session) : Prop where
  engine : s.driver.engine = e
  engine' : s'.driver.engine = e'
  lead : s'.lead = s.lead
  overwriting : s'.overwriting = s.overwriting
  hooks : s'.hooks = s.hooks
  builders : s'.builders = s.builders
  drafts : s'.drafts = s.drafts
  scopes : s'.scopes = s.scopes
  scripts : s'.scripts = s.scripts
  stored : s'.stored = s.stored
  unnumbered : s'.unnumbered = s.unnumbered
  owned : ∀ id ∈ p.builders, ∃ b, s.builders[id]? = some b ∧ b.draft ∈ p.drafts
  united : ∀ n ∈ p.drafts, ∀ u ∈ (s.drafts[n]?.getD {}).unions.getD [], u.builder ∈ p.builders
  portable : ∀ n ∈ p.drafts, (s.drafts[n]?.getD {}).Portable e e'

/-- The builder and all that it is united with, with their drafts. -/
def Session.members (s : Session) (id : Nat) : Footprint :=
  ⟨{m | s.Unites id m}, {n | ∃ m b, s.Unites id m ∧ s.builders[m]? = some b ∧ b.draft = n}⟩

/-- A session beside itself on another connection. -/
theorem Session.Linked.twins {s : Session} {id : Nat} (h : s.Linked) (hid : id < s.builders.size) (other : Driver)
    (hportable : ∀ n ∈ (s.members id).drafts, (s.drafts[n]?.getD {}).Portable s.driver.engine other.engine) :
    Twins (s.members id) s.driver.engine other.engine s { s with driver := other } where
  engine := rfl
  engine' := rfl
  lead := rfl
  overwriting := rfl
  hooks := rfl
  builders := rfl
  drafts := rfl
  scopes := rfl
  scripts := rfl
  stored := rfl
  unnumbered := rfl
  owned m hm := by
    have hb := Array.getElem?_eq_getElem (h.unites_lt hid hm)
    exact ⟨_, hb, m, _, hm, hb, rfl⟩
  united n hn u hu := by
    obtain ⟨m, b, hm, hb, rfl⟩ := hn
    rw [← declared_eq hb] at hu
    exact Relation.ReflTransGen.tail hm ⟨u, hu, rfl⟩
  portable := hportable

namespace Act

/-- From the same builders on, both operations come to related results, or fail in the same way, and leave the same
builders. -/
def Parallel (p : Footprint) (e e' : Engine) (env : Surroundings) (rel : α → β → Prop) (op : Act α) (op' : Act β) :
    Prop :=
  ∀ s s', Session.Twins p e e' s s' →
    Agree rel (op.exec env s).1 (op'.exec env s').1 ∧ Session.Twins p e e' (op.exec env s).2 (op'.exec env s').2

namespace Parallel

variable {rel : α → β → Prop} {rel' : γ → δ → Prop}

theorem pure {x : α} {y : β} (h : rel x y) : Parallel p e e' env rel (Pure.pure x) (Pure.pure y) :=
  fun _ _ hs => ⟨h, hs⟩

theorem throw (fault : Fault) : Parallel p e e' env rel (MonadExcept.throw fault : Act α) (MonadExcept.throw fault) :=
  fun _ _ hs => ⟨rfl, hs⟩

/-- Nothing follows a failure. -/
theorem throw_bind (fault : Fault) (k : α → Act γ) (k' : β → Act δ) :
    Parallel p e e' env rel' (MonadExcept.throw fault >>= k) (MonadExcept.throw fault >>= k') :=
  fun _ _ hs => ⟨rfl, hs⟩

theorem lift {outcome : Except Fault α} {outcome' : Except Fault β} (h : Agree rel outcome outcome') :
    Parallel p e e' env rel (Act.lift outcome) (Act.lift outcome') := by
  intro s s' hs
  rw [exec_lift, exec_lift]
  exact ⟨h, hs⟩

theorem bind {op : Act α} {op' : Act β} {k : α → Act γ} {k' : β → Act δ} (hop : Parallel p e e' env rel op op')
    (hk : ∀ x y, rel x y → Parallel p e e' env rel' (k x) (k' y)) :
    Parallel p e e' env rel' (op >>= k) (op' >>= k') := by
  intro s s' hs
  obtain ⟨hagree, htwins⟩ := hop s s' hs
  rw [exec_bind, exec_bind]
  generalize op.exec env s = r at hagree htwins
  generalize op'.exec env s' = r' at hagree htwins
  obtain ⟨outcome, t⟩ := r
  obtain ⟨outcome', t'⟩ := r'
  cases outcome with
  | error fault =>
      cases outcome' with
      | error fault' => exact ⟨hagree, htwins⟩
      | ok _ => exact hagree.elim
  | ok x =>
      cases outcome' with
      | error fault' => exact hagree.elim
      | ok y => exact hk x y hagree t t' htwins

/-- What follows goes on with the same result. -/
theorem bind_same {op : Act α} {k : α → Act γ} {k' : α → Act δ} (hop : Parallel p e e' env Eq op op)
    (hk : ∀ x, Parallel p e e' env rel' (k x) (k' x)) : Parallel p e e' env rel' (op >>= k) (op >>= k') :=
  hop.bind fun x _ h => h ▸ hk x

theorem check {outcome : Except Fault α} {outcome' : Except Fault β} (h : Agree rel outcome outcome') :
    Parallel p e e' env Eq (Act.check outcome) (Act.check outcome') :=
  (lift h).bind fun _ _ _ => pure rfl

theorem mono {rel₂ : α → β → Prop} {op : Act α} {op' : Act β} (h : Parallel p e e' env rel op op')
    (hrel : ∀ x y, rel x y → rel₂ x y) : Parallel p e e' env rel₂ op op' :=
  fun s s' hs => ⟨(h s s' hs).1.mono hrel, (h s s' hs).2⟩

/-! ### Looks at the session -/

theorem read_bind {k : Surroundings → Act γ} {k' : Surroundings → Act δ}
    (hk : Parallel p e e' env rel' (k env) (k' env)) :
    Parallel p e e' env rel' (MonadReader.read >>= k) (MonadReader.read >>= k') := by
  intro s s' hs
  rw [exec_bind_ok (exec_read env s), exec_bind_ok (exec_read env s')]
  exact hk s s' hs

theorem builder (id : Nat) : Parallel p e e' env Eq (Act.builder id) (Act.builder id) := by
  intro s s' hs
  rw [exec_builder, exec_builder, hs.builders]
  exact ⟨Agree.same _, hs⟩

theorem draftOf (id : Nat) : Parallel p e e' env Eq (Act.draftOf id) (Act.draftOf id) :=
  (builder id).bind_same fun _ => pure rfl

/-- The draft of a builder among the parts is one of the parts. -/
theorem draftOf_bind {id : Nat} (hid : id ∈ p.builders) {k : Nat → Act γ} {k' : Nat → Act δ}
    (hk : ∀ n ∈ p.drafts, Parallel p e e' env rel' (k n) (k' n)) :
    Parallel p e e' env rel' (Act.draftOf id >>= k) (Act.draftOf id >>= k') := by
  intro s s' hs
  obtain ⟨b, hb, hdraft⟩ := hs.owned id hid
  have hexec : ∀ t : Session, t.builders = s.builders → (Act.draftOf id).exec env t = (.ok b.draft, t) :=
    fun t ht => exec_draftOf (ht ▸ hb)
  rw [exec_bind_ok (hexec s rfl), exec_bind_ok (hexec s' hs.builders)]
  exact hk b.draft hdraft s s' hs

/-- Both sides read the same draft. -/
theorem draftAt_bind {n : Nat} {k : Draft → Act γ} {k' : Draft → Act δ}
    (hk : ∀ s s', Session.Twins p e e' s s' →
      Parallel p e e' env rel' (k (s.drafts[n]?.getD {})) (k' (s.drafts[n]?.getD {}))) :
    Parallel p e e' env rel' (Act.draftAt n >>= k) (Act.draftAt n >>= k') := by
  intro s s' hs
  have hexec : ∀ t : Session, t.drafts = s.drafts →
      (Act.draftAt n).exec env t = (.ok (s.drafts[n]?.getD {}), t) := by
    intro t ht
    rw [← ht]
    rfl
  rw [exec_bind_ok (hexec s rfl), exec_bind_ok (hexec s' hs.drafts)]
  exact hk s s' hs s s' hs

theorem dialect_bind {k : Dialect → Act γ} {k' : Dialect → Act δ}
    (hk : Parallel p e e' env rel' (k (.ofEngine e)) (k' (.ofEngine e'))) :
    Parallel p e e' env rel' (Act.dialect >>= k) (Act.dialect >>= k') := by
  intro s s' hs
  rw [exec_bind_ok exec_dialect, exec_bind_ok exec_dialect, hs.engine, hs.engine']
  exact hk s s' hs

theorem newBuilder (role : BuilderRole) : Parallel p e e' env Eq (Act.newBuilder role) (Act.newBuilder role) := by
  intro s s' hs
  let fresh (t : Session) : Session :=
    { t with
      drafts := t.drafts.push {}
      builders := t.builders.push { role, draft := t.drafts.size, lead := t.lead, overwriting := .bool t.overwriting } }
  have hexec : ∀ t, (Act.newBuilder role).exec env t = (.ok t.builders.size, fresh t) := fun _ => rfl
  rw [hexec, hexec]
  have hdrafts : ∀ n : Nat, (fresh s).drafts[n]?.getD {} = s.drafts[n]?.getD {} := by
    intro n
    change (s.drafts.push {})[n]?.getD {} = _
    rw [Array.getElem?_push]
    split
    · rename_i hn
      rw [hn, Array.getElem?_size]
      rfl
    · rfl
  refine ⟨(congrArg Array.size hs.builders).symm, { hs with
    builders := ?builders, drafts := ?drafts, owned := ?owned, united := ?united, portable := ?portable }⟩
  case builders =>
    change s'.builders.push _ = s.builders.push _
    rw [hs.builders, hs.drafts, hs.lead, hs.overwriting]
  case drafts =>
    change s'.drafts.push {} = s.drafts.push {}
    rw [hs.drafts]
  case owned =>
    intro id hid
    obtain ⟨b, hb, hdraft⟩ := hs.owned id hid
    exact ⟨b, getElem?_push_of_some hb, hdraft⟩
  case united =>
    intro n hn
    rw [hdrafts]
    exact hs.united n hn
  case portable =>
    intro n hn
    rw [hdrafts]
    exact hs.portable n hn

end Parallel

end Act

/-- The scripts of groups do the same on both connections. -/
def Surroundings.Impartial (p : Footprint) (e e' : Engine) (env : Surroundings) : Prop :=
  ∀ script target, Parallel p e e' env Eq (Act.fill script target) (Act.fill script target)

namespace Resolve

theorem parallel_each {list : Draft → Option (List α)} {n : Nat} {make : Nat → α → Act β} {rel : β → β → Prop}
    (hmake : ∀ s s', Session.Twins p e e' s s' → ∀ place, ∀ x ∈ (list (s.drafts[n]?.getD {})).getD [],
      Parallel p e e' env rel (make place x) (make place x)) :
    Parallel p e e' env (List.Forall₂ rel) (each list n make) (each list n make) := by
  have hfrom : ∀ fuel place,
      Parallel p e e' env (List.Forall₂ rel) (eachFrom list n make fuel place) (eachFrom list n make fuel place) := by
    intro fuel
    -- an entry may change the list, so each round reads it anew, from drafts that are the same on both sides
    induction fuel with
    | zero => exact fun _ => .throw _
    | succ fuel ih =>
        refine fun place => .draftAt_bind fun s s' hs => ?_
        split
        · exact .pure .nil
        · rename_i x hx
          refine (hmake s s' hs place x (List.mem_of_getElem? hx)).bind fun y z hyz => (ih _).bind fun ys zs hrest => ?_
          exact .pure (.cons hyz hrest)
  exact .draftAt_bind fun _ _ _ => hfrom _ 0

/-- Entries that are made into the same results. -/
theorem parallel_each_same {list : Draft → Option (List α)} {n : Nat} {make : Nat → α → Act β}
    (hmake : ∀ place x, Parallel p e e' env Eq (make place x) (make place x)) :
    Parallel p e e' env Eq (each list n make) (each list n make) :=
  (parallel_each fun _ _ _ place x _ => hmake place x).mono fun _ _ h => List.forall₂_eq_eq_eq ▸ h

theorem parallel_criterion {members : Nat → Act (List Condition)}
    (hmembers : ∀ script, Parallel p e e' env Eq (members script) (members script)) (isFirst : Bool) (c : Criterion) :
    Parallel p e e' env Eq (criterion members isFirst c) (criterion members isFirst c) := by
  refine .bind_same (.lift (Agree.same _)) fun joint => ?_
  split
  · exact .pure rfl
  · split
    · split
      · exact .bind_same (hmembers _) fun _ => .pure rfl
      · exact .throw _
      · exact .throw _
    · exact .pure rfl

theorem parallel_criteria {members : Nat → Act (List Condition)}
    (hmembers : ∀ script, Parallel p e e' env Eq (members script) (members script)) (qualifier : Option String)
    (isBound : Bool) (list : Draft → Option (List Criterion)) (draft : Nat) :
    Parallel p e e' env Eq (criteria members qualifier isBound list draft)
      (criteria members qualifier isBound list draft) := by
  refine .bind_same (parallel_each_same fun place c => ?_) fun made => ?_
  · refine .bind_same (parallel_criterion hmembers _ c) fun condition => .dialect_bind ?_
    refine .bind (.check (Condition.binds_pieces e e' qualifier isBound _ condition)) fun _ _ _ => .pure rfl
  · split
    · exact .throw_bind _ _ _
    · exact .pure rfl

/-- Clauses with the numbers and locks of a draft that both engines take. -/
theorem portable_withPages {c : Clauses} {d : Draft} (hc : e' = e ∨ c.distinctOn = []) (hd : d.Portable e e') :
    (withPages c d).Portable e e' := ⟨hc, hd.numbers.imp_right fun h => ⟨h.limit, h.fetchNext, h.locks⟩⟩

section Scripts

variable (hscripts : env.Impartial p e e')

include hscripts

theorem parallel_members (depth script : Nat) :
    Parallel p e e' env Eq (members depth script) (members depth script) := by
  induction depth generalizing script with
  | zero => exact .throw _
  | succ depth ih =>
      refine .bind_same (.newBuilder _) fun nested => ?_
      refine .bind_same (.bind_same (.bind_same (.builder nested) fun _ => .pure rfl) (hscripts script)) fun _ => ?_
      exact .bind_same (.draftOf nested) fun _ => parallel_criteria ih _ _ _ _

theorem parallel_join (depth : Nat) (j : DraftJoin) : Parallel p e e' env Eq (join depth j) (join depth j) := by
  have hconditions : Parallel p e e' env Eq
      (j.builder.mapM fun id => do criteria (members depth) none false (·.criteria) (← Act.draftOf id))
      (j.builder.mapM fun id => do criteria (members depth) none false (·.criteria) (← Act.draftOf id)) := by
    cases j.builder with
    | none => exact .pure rfl
    | some id =>
        rw [Option.mapM_some]
        refine .bind_same (.bind_same (.draftOf id) fun _ => ?_) fun _ => .pure rfl
        exact parallel_criteria (parallel_members hscripts depth) _ _ _ _
  refine .dialect_bind (.bind (.check (Join.binds_tableClause e e' j.table)) fun _ _ _ => ?_)
  refine .bind_same hconditions fun conditions => ?_
  split
  · exact .bind_same (.check (Agree.same _)) fun _ => .pure rfl
  · exact .throw _

theorem parallel_joins (depth draft : Nat) : Parallel p e e' env Eq (joins depth draft) (joins depth draft) :=
  parallel_each_same fun _ => parallel_join hscripts depth

theorem parallel_bound (depth : Nat) (qualifier : Option String) (list : Draft → Option (List Criterion))
    (draft : Nat) : Parallel p e e' env Eq (bound depth qualifier list draft) (bound depth qualifier list draft) :=
  parallel_criteria (parallel_members hscripts depth) _ _ _ _

omit hscripts in
theorem parallel_groupBys (draft : Nat) : Parallel p e e' env Eq (groupBys draft) (groupBys draft) :=
  .draftAt_bind fun _ _ _ => .dialect_bind (.bind (.check (binds_groupClause e e' _)) fun _ _ _ => .pure rfl)

omit hscripts in
theorem parallel_orderBys (draft : Nat) : Parallel p e e' env Eq (orderBys draft) (orderBys draft) :=
  .draftAt_bind fun _ _ _ => .dialect_bind (.bind (.check (OrderTerm.binds_clause e e' _)) fun _ _ _ => .pure rfl)

variable {draft : Nat} (hdraft : draft ∈ p.drafts)

include hdraft

theorem parallel_selectClauses (depth : Nat) :
    Parallel p e e' env (fun c c' => c = c' ∧ c.Portable e e') (selectClauses depth draft)
      (selectClauses depth draft) := by
  refine .dialect_bind (.draftAt_bind fun s s' hs => ?_)
  generalize hd : s.drafts[draft]?.getD {} = d
  have hdistinct : e' = e ∨ (opening d).distinctOn = [] := hd ▸ (hs.portable draft hdraft).distinctOn
  refine .bind (.check (Clauses.binds_distinctClause hdistinct)) fun _ _ _ => ?_
  refine .bind (.check (binds_tables e e' _ _)) fun _ _ _ => ?_
  refine .bind_same (.lift (Agree.same _)) fun qualifier => ?_
  refine .bind_same (parallel_joins hscripts depth draft) fun joins => ?_
  refine .bind_same (parallel_bound hscripts depth qualifier _ draft) fun wheres => ?_
  refine .bind_same (parallel_groupBys draft) fun groups => ?_
  refine .bind_same (parallel_bound hscripts depth qualifier _ draft) fun havings => ?_
  refine .bind_same (parallel_orderBys draft) fun orders => .draftAt_bind fun t t' ht => ?_
  have hportable : (withPages { opening d with joins, wheres, groupBys := groups, havings, orderBys := orders }
      (t.drafts[draft]?.getD {})).Portable e e' := portable_withPages hdistinct (ht.portable draft hdraft)
  exact .bind (.check (Clauses.binds_select hportable)) fun _ _ _ => .pure ⟨rfl, hportable⟩

omit hdraft in
theorem parallel_select (depth : Nat) {id : Nat} (hid : id ∈ p.builders) :
    Parallel p e e' env (fun t t' => t = t' ∧ t.Portable e e') (select depth id) (select depth id) := by
  induction depth generalizing id with
  | zero => exact .throw _
  | succ depth ih =>
      refine .draftOf_bind hid fun draft hdraft => (parallel_selectClauses hscripts hdraft depth).bind ?_
      rintro clauses _ ⟨rfl, hclauses⟩
      have hmember : ∀ union : DraftUnion, union.builder ∈ p.builders → Parallel p e e' env
          (fun m m' : UnionKind × SelectTree => m = m' ∧ m.2.Portable e e')
          (do pure (union.kind, ← select depth union.builder))
          (do pure (union.kind, ← select depth union.builder)) := by
        refine fun union hunion => (ih hunion).bind ?_
        rintro tree _ ⟨rfl, htree⟩
        exact .pure ⟨rfl, htree⟩
      have hmembers : Parallel p e e' env (fun ms ms' => ms = ms' ∧ SelectTree.AllPortable e e' ms)
          (each (·.unions) draft fun _ union => do pure (union.kind, ← select depth union.builder))
          (each (·.unions) draft fun _ union => do pure (union.kind, ← select depth union.builder)) := by
        -- a member that has come up meanwhile is one of the parts as well
        refine (parallel_each fun s s' hs _ union hunion => hmember union (hs.united draft hdraft union hunion)).mono
          fun ms ms' hms => ?_
        induction hms with
        | nil => exact ⟨rfl, trivial⟩
        | cons hm _ ih =>
            obtain ⟨rfl, hportable⟩ := hm
            obtain ⟨rfl, hall⟩ := ih
            exact ⟨rfl, hportable, hall⟩
      refine hmembers.bind ?_
      rintro members _ ⟨rfl, hall⟩
      exact .pure ⟨rfl, hclauses, hall⟩

theorem parallel_updateClauses (depth : Nat) (data : Value) :
    Parallel p e e' env (fun c c' => c = c' ∧ c.Portable e e') (updateClauses depth draft data)
      (updateClauses depth draft data) := by
  refine .dialect_bind (.draftAt_bind fun s s' hs => ?_)
  dsimp only
  split
  · exact .throw_bind _ _ _
  · refine .bind_same (.lift (Agree.same _)) fun table => .bind_same (.lift (Agree.same _)) fun qualifier => ?_
    refine .bind (.check (binds_tableClause e e' _ table)) fun _ _ _ => ?_
    refine .bind_same (parallel_joins hscripts depth draft) fun joins => ?_
    split
    · refine .bind (.check (binds_assignments e e' _)) fun _ _ _ => ?_
      refine .bind_same (parallel_bound hscripts depth qualifier _ draft) fun wheres => ?_
      refine .bind_same (parallel_groupBys draft) fun groups => .bind_same (parallel_orderBys draft) fun orders => ?_
      refine .draftAt_bind fun t t' ht => .pure ⟨rfl, ?_⟩
      exact portable_withPages (hs.portable draft hdraft).distinctOn (ht.portable draft hdraft)
    · exact .throw _

theorem parallel_deleteClauses (depth : Nat) :
    Parallel p e e' env (fun c c' => c = c' ∧ c.Portable e e') (deleteClauses depth draft)
      (deleteClauses depth draft) := by
  refine .draftAt_bind fun s s' hs => .bind_same (.check (Agree.same _)) fun _ => ?_
  refine .bind_same (parallel_joins hscripts depth draft) fun joins => ?_
  refine .bind_same (parallel_bound hscripts depth none _ draft) fun wheres => ?_
  refine .bind_same (parallel_groupBys draft) fun groups => .bind_same (parallel_orderBys draft) fun orders => ?_
  refine .draftAt_bind fun t t' ht => .pure ⟨rfl, ?_⟩
  exact portable_withPages (hs.portable draft hdraft).distinctOn (ht.portable draft hdraft)

end Scripts

end Resolve

theorem StatementRequest.parallel_resolve (hscripts : env.Impartial p e e') {id : Nat} (hid : id ∈ p.builders)
    (request : StatementRequest) :
    Parallel p e e' env (fun t t' => t = t' ∧ t.Portable e e') (request.resolve id) (request.resolve id) := by
  unfold StatementRequest.resolve
  refine .read_bind (.draftOf_bind hid fun draft hdraft => ?_)
  cases request with
  | select =>
      refine (Resolve.parallel_select hscripts env.depth hid).bind ?_
      rintro tree _ ⟨rfl, htree⟩
      exact .pure ⟨rfl, htree⟩
  | insert verb data => exact .draftAt_bind fun _ _ _ => .pure ⟨rfl, trivial⟩
  | update data =>
      refine (Resolve.parallel_updateClauses hscripts hdraft env.depth data).bind ?_
      rintro clauses _ ⟨rfl, hclauses⟩
      exact .pure ⟨rfl, hclauses⟩
  | delete columns =>
      refine (Resolve.parallel_deleteClauses hscripts hdraft env.depth).bind ?_
      rintro clauses _ ⟨rfl, hclauses⟩
      exact .pure ⟨rfl, hclauses⟩
  | conditions isBound =>
      refine .bind_same ?_ fun conditions => .pure ⟨rfl, trivial⟩
      exact Resolve.parallel_criteria (Resolve.parallel_members hscripts env.depth) _ _ _ _

/-- An insertion that skips duplicates. -/
def StatementRequest.SkipsDuplicates (request : StatementRequest) : Prop := ∃ data, request = .insert .insertIgnore data

/-- Only the words of an insertion that skips duplicates depend on the engine. -/
theorem StatementRequest.sameVerb_resolve {s u : Session} {id : Nat} {request : StatementRequest} {t : StatementTree}
    (h : (request.resolve id).exec env s = (.ok t, u)) (hverb : ¬ request.SkipsDuplicates) : t.SameVerb e e' := by
  unfold StatementRequest.resolve at h
  iterate 2 obtain ⟨_, _, _, h⟩ := exec_bind_eq_ok h
  cases request with
  | insert verb data =>
      obtain ⟨d, _, _, h⟩ := exec_bind_eq_ok h
      cases h
      cases verb with
      | insertIgnore => exact absurd ⟨data, rfl⟩ hverb
      | insert => exact ⟨rfl, rfl⟩
      | replace => exact ⟨rfl, rfl⟩
  | _ =>
      obtain ⟨_, _, _, h⟩ := exec_bind_eq_ok h
      cases h
      trivial

/-- The same builders on the connections of two engines compile to statements with the same values, or fail in the same
way, as long as the scripts of groups do the same for both and both engines take what the builders have declared. But
for insertions that skip duplicates, SQLite's text is that of MySQL, and so is PostgreSQL's with double quotes in place
of backticks, if no text of the statement holds either of these. -/
theorem compile_dialects {s s' : Session} (hscripts : env.Impartial p e e') (hs : Session.Twins p e e' s s') {id : Nat}
    (hid : id ∈ p.builders) (request : StatementRequest) :
    Agree (fun q q' =>
        (q'.bindings = q.bindings ∧ (e = .mysql ∧ e' = .sqlite ∧ ¬ request.SkipsDuplicates → q'.sql = q.sql)) ∧
          (e = .mysql ∧ e' = .postgresql ∧ ¬ request.SkipsDuplicates ∧
            (∀ t u, (request.resolve id).exec env s = (.ok t, u) → t.Fits .unquoted) →
              q'.sql = q.sql.map doubleQuoted))
      ((compile id request).exec env s).1 ((compile id request).exec env s').1 := by
  obtain ⟨hagree, -⟩ := StatementRequest.parallel_resolve hscripts hid request s s' hs
  rcases hr : (request.resolve id).exec env s with ⟨outcome, u⟩
  rcases hr' : (request.resolve id).exec env s' with ⟨outcome', u'⟩
  rw [hr, hr'] at hagree
  cases outcome with
  | error fault =>
      cases outcome' with
      | ok t => exact hagree.elim
      | error fault' =>
          rw [compile_eq, exec_bind_ok exec_dialect, exec_bind_ok exec_dialect, exec_bind_error hr,
            exec_bind_error hr']
          exact hagree
  | ok t =>
      cases outcome' with
      | error fault' => exact hagree.elim
      | ok t' =>
          obtain ⟨rfl, hportable⟩ := hagree
          rw [exec_compile hr, exec_compile hr', hs.engine, hs.engine']
          refine ((StatementTree.binds_render hportable).and_imp ?_).and_imp ?_
          · rintro ⟨rfl, rfl, hverb⟩
            have hrender := StatementTree.render_sqlite hportable (StatementRequest.sameVerb_resolve hr hverb)
            rw [show t.render (.ofEngine .sqlite) = t.render (.ofEngine .mysql) from hrender]
            exact (Agree.same _).mono fun _ _ hq => hq ▸ rfl
          · rintro ⟨rfl, rfl, hverb, hfits⟩
            refine (StatementTree.render_postgresql (hfits t u rfl) hportable
              (StatementRequest.sameVerb_resolve hr hverb)).mono fun q q' hq => ?_
            rw [hq]
            rfl

def Session.comparing (column : String) (v : Value) (s : Session) : Session :=
  { s with drafts := s.drafts.modify (s.drafts.size - 1) fun d =>
      { d with criteria := some [⟨.text column, .text "=", v, .text "AND", false, none⟩] } }

/-- Every script is such a comparison. -/
def Surroundings.comparing (column : String) (v : Value) : Surroundings where
  fill _ _ := modify (Session.comparing column v)
  notify _ _ _ := throw .tooDeep
  depth := 2

theorem Surroundings.impartial_comparing (column : String) (v : Value) :
    (Surroundings.comparing column v).Impartial p e e' := by
  intro script target s s' hs
  have hexec : ∀ t, (Act.fill script target).exec (.comparing column v) t = (.ok (), t.comparing column v) :=
    fun _ => rfl
  have hdraft : ∀ n : Nat, ∃ criteria,
      (s.comparing column v).drafts[n]?.getD {} = { s.drafts[n]?.getD {} with criteria } := by
    intro n
    unfold Session.comparing
    rw [Array.getElem?_modify]
    split
    · cases s.drafts[n]? with
      | none => exact ⟨none, rfl⟩
      | some d => exact ⟨_, rfl⟩
    · exact ⟨_, rfl⟩
  rw [hexec, hexec]
  refine ⟨rfl, { hs with drafts := ?drafts, united := fun n hn => ?united, portable := fun n hn => ?portable }⟩
  case drafts =>
    unfold Session.comparing
    rw [hs.drafts]
  case united =>
    obtain ⟨criteria, hd⟩ := hdraft n
    rw [hd]
    exact hs.united n hn
  case portable =>
    obtain ⟨criteria, hd⟩ := hdraft n
    rw [hd]
    exact hs.portable n hn

/-- Some rows of a table that meet the conditions of a group. -/
def Draft.grouped (table : String) : Draft where
  tables := .declared [.text table]
  wheres := some [⟨.group 0, .null, .null, .text "AND", false, none⟩]
  limit := some (.int 3)

theorem Session.draft_ofDraft {d : Draft} {id : Nat} {b : Builder} (hb : (ofDraft e d).builders[id]? = some b) :
    b.draft = 0 := by
  have hmem : b ∈ #[(⟨.query, 0, none, .bool false, .null, none⟩ : Builder)] := Array.mem_of_getElem? hb
  rw [Array.mem_singleton.1 hmem]

/-- One builder with one draft that refers to no others. -/
theorem Session.linked_single {s : Session} {b : Builder} {d : Draft} (hbuilders : s.builders = #[b])
    (hdrafts : s.drafts = #[d]) (hdraft : b.draft = 0) (hjoins : d.joins = none) (hunions : d.unions = none) :
    s.Linked where
  draft id b' hb := by
    rw [hbuilders] at hb
    rw [Array.mem_singleton.1 (Array.mem_of_getElem? hb), hdraft, hdrafts]
    exact Nat.one_pos
  join n d' hd j hj := by
    rw [hdrafts] at hd
    rw [Array.mem_singleton.1 (Array.mem_of_getElem? hd), hjoins] at hj
    exact absurd hj List.not_mem_nil
  union n d' hd u hu := by
    rw [hdrafts] at hd
    rw [Array.mem_singleton.1 (Array.mem_of_getElem? hd), hunions] at hu
    exact absurd hu List.not_mem_nil

theorem Session.linked_ofDraft {d : Draft} (hjoins : d.joins = none) (hunions : d.unions = none) :
    (ofDraft e d).Linked := linked_single rfl rfl rfl hjoins hunions

/-- The same with the conditions that the group declares. -/
def StatementTree.grouped (table column : String) (v : Value) : StatementTree :=
  .select (.mk { Resolve.withPages (Resolve.opening (.grouped table)) (.grouped table) with
    wheres := [.group ⟨"AND", false⟩ [.test ⟨"AND", false⟩ (.text column) (.text "=") v]] } [])

theorem StatementTree.fits_grouped : (StatementTree.grouped "t" "a" (.int 1)).Fits .unquoted := by
  have hname : ∀ name ∈ [Value.text "t"], Vocabulary.unquoted.Name name := by
    intro name hmem
    rw [List.mem_singleton.1 hmem]
    exact Vocabulary.word_text (by decide)
  have htest : Condition.Fits .unquoted true (.test ⟨"AND", false⟩ (.text "a") (.text "=") (.int 1)) :=
    ⟨by decide, Vocabulary.word_text (by decide), Vocabulary.word_text (by decide), trivial⟩
  have hlimit : ∀ v ∈ some (Value.int 3), Vocabulary.unquoted.Word v := by
    rintro _ ⟨⟩ s hs
    rw [← Option.some.inj hs]
    decide +kernel
  exact ⟨{ Clauses.fits_opening hname with wheres := ⟨⟨by decide, htest, trivial⟩, trivial⟩, limit := hlimit }, trivial⟩

/-- The marks of PostgreSQL, where only the statement for MySQL is looked at. -/
theorem compile_dialects_group : ∃ q,
    ((compile 0 .select).exec (.comparing "a" (.int 1)) (.ofDraft .postgresql (.grouped "t"))).1 = .ok q ∧
      q.sql = "SELECT * FROM \"t\" WHERE (\"a\" = ?) LIMIT 3" ∧ q.bindings = [.int 1] := by
  have htree : (StatementRequest.select.resolve 0).exec (.comparing "a" (.int 1)) (.ofDraft .mysql (.grouped "t")) =
      (.ok (.grouped "t" "a" (.int 1)), _) := rfl
  have hrender : (StatementTree.grouped "t" "a" (.int 1)).render (.ofEngine .mysql) =
      .ok ⟨"SELECT * FROM `t` WHERE (`a` = ?) LIMIT 3", [.int 1]⟩ :=
    StatementTree.render_eq_of_sql (by decide +kernel)
  have hmysql : ((compile 0 .select).exec (.comparing "a" (.int 1)) (.ofDraft .mysql (.grouped "t"))).1 =
      .ok ⟨"SELECT * FROM `t` WHERE (`a` = ?) LIMIT 3", [.int 1]⟩ := by
    rw [exec_compile htree]
    exact hrender
  have hlinked : (Session.ofDraft .mysql (.grouped "t")).Linked := Session.linked_ofDraft rfl rfl
  have htwins := hlinked.twins Nat.one_pos (Session.ofDraft .postgresql (.grouped "t")).driver fun n hn => by
    obtain ⟨m, b, -, hb, rfl⟩ := hn
    rw [Session.draft_ofDraft hb]
    exact ⟨.inr rfl, .inl (by decide)⟩
  have hskips : ¬ StatementRequest.select.SkipsDuplicates := fun ⟨_, h⟩ => by cases h
  have hfits : ∀ t u, (StatementRequest.select.resolve 0).exec (.comparing "a" (.int 1))
      (.ofDraft .mysql (.grouped "t")) = (.ok t, u) → t.Fits .unquoted := by
    intro t u ht
    cases htree.symm.trans ht
    exact StatementTree.fits_grouped
  have hagree := compile_dialects (Surroundings.impartial_comparing "a" (.int 1)) htwins .refl .select
  rw [hmysql] at hagree
  obtain ⟨q, hq, ⟨hbindings, -⟩, htext⟩ := hagree.exists_ok
  refine ⟨q, hq, ?_, hbindings⟩
  rw [htext ⟨rfl, rfl, hskips, hfits⟩]
  decide +kernel

/-- All rows of a table, with a lock that has no text. -/
def Draft.locked (table : String) : Draft where
  tables := .declared [.text table]
  locks := some [.raw (.int 5) []]

/-- A lock without a text fails for MySQL, and SQL Server has no place for it. -/
theorem not_compile_dialects_lock : (Draft.locked "people").distinctOn = none ∧
    ((compile 0 .select).exec (.scriptless 1) (.ofDraft .mysql (.locked "people"))).1 = .error .typeMismatch ∧
    ((compile 0 .select).exec (.scriptless 1) (.ofDraft .sqlserver (.locked "people"))).1 =
      .ok ⟨"SELECT * FROM people", []⟩ ∧
    ¬ Agree (fun q q' => q'.bindings = q.bindings)
      ((compile 0 .select).exec (.scriptless 1) (.ofDraft .mysql (.locked "people"))).1
      ((compile 0 .select).exec (.scriptless 1) (.ofDraft .sqlserver (.locked "people"))).1 := by
  have htree : (StatementRequest.select.resolve 0).exec (.scriptless 1) (.ofDraft .sqlserver (.locked "people")) =
      (.ok (.select (.mk (Resolve.withPages (Resolve.opening (.locked "people")) (.locked "people")) [])),
        .ofDraft .sqlserver (.locked "people")) := rfl
  have hrender : (StatementTree.select (.mk (Resolve.withPages (Resolve.opening (.locked "people"))
      (.locked "people")) [])).render (.ofEngine .sqlserver) = .ok ⟨"SELECT * FROM people", []⟩ :=
    StatementTree.render_eq_of_sql (by decide +kernel)
  have hmysql : ((compile 0 .select).exec (.scriptless 1) (.ofDraft .mysql (.locked "people"))).1 =
      .error .typeMismatch := rfl
  have hsqlserver : ((compile 0 .select).exec (.scriptless 1) (.ofDraft .sqlserver (.locked "people"))).1 =
      .ok ⟨"SELECT * FROM people", []⟩ := by
    rw [exec_compile htree]
    exact hrender
  refine ⟨rfl, hmysql, hsqlserver, fun hagree => ?_⟩
  rw [hmysql, hsqlserver] at hagree
  exact hagree

end SqlBuilder
