import SqlBuilder.Proofs.Session.Members
import SqlBuilder.Proofs.Statement.Bounded

/-!
Compilations that come to an end. The depth that a compilation may go down is no part of what it gives, as long as
there is enough of it: then every greater depth gives the same. Nothing but the scripts of groups and the members of
unions takes a compilation down, so it ends if the scripts do and the unions lead to one that has none.
-/

namespace SqlBuilder

open Act Footprint

variable {α β : Type} {env : Surroundings} {s t : Session} {id n : Nat}

namespace Act

/-- From some depth on, always the same comes of the operation. It does not go too deep, and keeps what there was. -/
def Ends (env : Surroundings) (op : Nat → Act α) (s : Session) : Prop :=
  ∃ enough outcome t, Bounded outcome ∧ Keeping s t ∧
    ∀ depth, enough ≤ depth → ∀ other, (op depth).exec { env with depth := other } s = (outcome, t)

namespace Ends

variable {op : Nat → Act α}

theorem of_exec {outcome : Except Fault α} (houtcome : Bounded outcome) (ht : Keeping s t)
    (h : ∀ depth other, (op depth).exec { env with depth := other } s = (outcome, t)) : Ends env op s :=
  ⟨0, outcome, t, houtcome, ht, fun depth _ => h depth⟩

theorem lift {outcome : Except Fault α} (h : Bounded outcome) : Ends env (fun _ => Act.lift outcome) s :=
  of_exec h (.of_eq rfl rfl rfl rfl rfl rfl) fun _ _ => exec_lift outcome

theorem pure (x : α) : Ends env (fun _ => Pure.pure x) s := lift (.pure x)

theorem throw {fault : Fault} (h : fault ≠ .tooDeep) : Ends env (fun _ => (MonadExcept.throw fault : Act α)) s :=
  lift (.throw h)

/-- One more level is taken down. -/
theorem of_succ (h : Ends env (fun depth => op (depth + 1)) s) : Ends env op s := by
  obtain ⟨enough, outcome, t, houtcome, ht, hexec⟩ := h
  refine ⟨enough + 1, outcome, t, houtcome, ht, fun depth hdepth other => ?_⟩
  obtain ⟨depth, rfl⟩ : ∃ d, depth = d + 1 := ⟨depth - 1, by omega⟩
  exact hexec depth (Nat.le_of_succ_le_succ hdepth) other

theorem bind {k : Nat → α → Act β} (h : Ends env op s) (hk : ∀ x t, Keeping s t → Ends env (fun depth => k depth x) t) :
    Ends env (fun depth => op depth >>= k depth) s := by
  obtain ⟨enough, outcome, t, houtcome, ht, hexec⟩ := h
  cases outcome with
  | error fault =>
      exact ⟨enough, .error fault, t, houtcome.fail, ht, fun depth hdepth other =>
        exec_bind_error (hexec depth hdepth other)⟩
  | ok x =>
      obtain ⟨enough', outcome', u, houtcome', hu, hexec'⟩ := hk x t ht
      refine ⟨max enough enough', outcome', u, houtcome', ht.trans hu, fun depth hdepth other => ?_⟩
      rw [exec_bind_ok (hexec depth ((le_max_left _ _).trans hdepth) other)]
      exact hexec' depth ((le_max_right _ _).trans hdepth) other

/-- What follows a look at the session is of interest for what is seen there. -/
theorem read_bind {look : Act α} {k : Nat → α → Act β} {x : α}
    (hlook : ∀ other, look.exec { env with depth := other } s = (.ok x, s)) (hk : Ends env (fun depth => k depth x) s) :
    Ends env (fun depth => look >>= k depth) s := by
  obtain ⟨enough, outcome, t, houtcome, ht, hexec⟩ := hk
  refine ⟨enough, outcome, t, houtcome, ht, fun depth hdepth other => ?_⟩
  rw [exec_bind_ok (hlook other)]
  exact hexec depth hdepth other

theorem check_bind {outcome : Except Fault α} {k : Nat → Unit → Act β} (houtcome : Bounded outcome)
    (hk : ∀ x t, Keeping s t → Ends env (fun depth => k depth x) t) :
    Ends env (fun depth => Act.check outcome >>= k depth) s :=
  bind (bind (lift houtcome) fun _ _ _ => pure _) hk

/-! ### Lists that are read entry by entry -/

section Each

open Resolve

variable {list : Draft → Option (List α)} {make : Nat → Nat → α → Act β} {entries : List α}

theorem eachFrom (hlist : ∀ t, Keeping s t → (list (t.drafts[n]?.getD {})).getD [] = entries)
    (hmake : ∀ x ∈ entries, ∀ place t, Keeping s t → Ends env (fun depth => make depth place x) t) {fuel place : Nat}
    (hplace : place ≤ entries.length) (hfuel : entries.length < fuel + place) (ht : Keeping s t) :
    Ends env (fun depth => Resolve.eachFrom list n (make depth) fuel place) t := by
  induction fuel generalizing place t with
  | zero => omega
  | succ fuel ih =>
      simp only [Resolve.eachFrom]
      refine read_bind (x := t.drafts[n]?.getD {}) (fun _ => rfl) ?_
      rw [hlist t ht]
      rcases hentry : entries[place]? with _ | x
      · exact pure _
      · obtain ⟨hlt, -⟩ := List.getElem?_eq_some_iff.1 hentry
        refine bind (hmake x (List.mem_of_getElem? hentry) place t ht) fun _ u hu => ?_
        refine bind (ih hlt ?_ (ht.trans hu)) fun _ _ _ => pure _
        omega

theorem each (hempty : (list {}).getD [] = []) (hmake : ∀ x ∈ (list (s.drafts[n]?.getD {})).getD [], ∀ place t,
    Keeping s t → Ends env (fun depth => make depth place x) t) :
    Ends env (fun depth => Resolve.each list n (make depth)) s := by
  obtain ⟨more, hmore⟩ : ∃ more, maxEntries = more + 1 := ⟨9999, rfl⟩
  have hself : Keeping s s := .of_eq rfl rfl rfl rfl rfl rfl
  refine read_bind (x := s.drafts[n]?.getD {}) (fun _ => rfl) ?_
  by_cases hn : n < s.drafts.size
  · have hlist : ∀ t, Keeping s t → (list (t.drafts[n]?.getD {})).getD [] = (list (s.drafts[n]?.getD {})).getD [] :=
      fun t ht => by rw [ht.drafts n hn]
    refine eachFrom hlist hmake (Nat.zero_le _) ?_ hself
    omega
  · have hnone : s.drafts[n]?.getD {} = ({} : Draft) := by
      rw [Array.getElem?_eq_none (Nat.le_of_not_lt hn), Option.getD_none]
    rw [hnone, hempty, hmore]
    simp only [Resolve.eachFrom]
    refine read_bind (x := s.drafts[n]?.getD {}) (fun _ => rfl) ?_
    rw [hnone, hempty]
    exact pure _

end Each

/-! ### Conditions -/

section Conditions

variable {members : Nat → Nat → Act (List Condition)}

theorem criterion {c : Criterion} (isFirst : Bool)
    (hmembers : ∀ script, c.key = .group script → ∀ t, Keeping s t → Ends env (fun depth => members depth script) t) :
    Ends env (fun depth => Resolve.criterion (members depth) isFirst c) s := by
  have hjoint : Bounded (Resolve.joint isFirst c) := by
    unfold Resolve.joint
    split
    · exact .pure _
    · exact .ite (.throw nofun) (.pure _)
  refine bind (lift hjoint) fun joint t ht => ?_
  cases c.columns with
  | some names => exact pure _
  | none =>
      dsimp only
      split
      · cases hkey : c.key with
        | group script => exact bind (hmembers script hkey t ht) fun _ _ _ => pure _
        | hook => exact throw nofun
        | _ => exact throw nofun
      · exact pure _

theorem criteria {list : Draft → Option (List Criterion)} (qualifier : Option String) (isBound : Bool)
    (hempty : (list {}).getD [] = []) (hmembers : ∀ c ∈ (list (s.drafts[n]?.getD {})).getD [], ∀ script,
      c.key = .group script → ∀ t, Keeping s t → Ends env (fun depth => members depth script) t) :
    Ends env (fun depth => Resolve.criteria (members depth) qualifier isBound list n) s := by
  refine bind (each hempty fun c hc place t ht => ?_) fun made t _ => ?_
  · refine bind (criterion _ fun script hkey u hu => hmembers c hc script hkey u (ht.trans hu)) fun condition u _ => ?_
    exact read_bind (fun _ => rfl) (check_bind (.pieces _ _ _ _) fun _ _ _ => pure _)
  · split
    · exact bind (throw nofun) fun _ _ _ => pure _
    · exact pure _

end Conditions

end Ends

/-! ### Groups -/

/-- The script of a group runs on a new builder, and what it has declared there is looked at. -/
def grouped (script : Nat) : Act Draft := do
  let nested ← newBuilder .group
  fillBuilder script nested
  draft nested

/-- The script of a group is finite: wherever it runs, it comes to an end and keeps what there was, and the scripts of
the groups that it declares are finite, too. -/
inductive Finite (env : Surroundings) (s : Session) : Nat → Prop where
  | mk {script : Nat} (hends : ∀ t, Keeping s t → Bounded ((grouped script).exec env t).1)
      (hkeeps : ∀ t, Keeping s t → Keeping t ((grouped script).exec env t).2)
      (hinner : ∀ t, Keeping s t → ∀ d, ((grouped script).exec env t).1 = .ok d → ∀ c ∈ d.criteria.getD [], ∀ inner,
        c.key = .group inner → Finite env s inner) : Finite env s script

theorem exec_fillBuilder_depth (env : Surroundings) (script id other : Nat) (s : Session) :
    (fillBuilder script id).exec { env with depth := other } s = (fillBuilder script id).exec env s := by
  have hvalue : Unscripted (builderValue id) := .bind (.builder id) fun _ => .pure _
  unfold fillBuilder
  rw [exec_bind, exec_bind, hvalue { env with depth := other } env]
  rcases (builderValue id).exec env s with ⟨outcome, t⟩
  cases outcome with
  | ok v => rfl
  | error fault => rfl

/-- The conditions of a finite group come to an end. -/
theorem Finite.ends {script : Nat} (h : Finite env s script) (hst : Keeping s t) :
    Ends env (fun depth => Resolve.members depth script) t := by
  induction h generalizing t with
  | @mk script hends hkeeps hinner ih =>
      have hends := hends t hst
      have hkeeps := hkeeps t hst
      have ih := ih t hst
      have hnew : ∀ env, (newBuilder .group).exec env t = (.ok t.builders.size, _) := fun _ => rfl
      unfold grouped at hends hkeeps ih
      rw [exec_bind_ok (hnew env)] at hends hkeeps ih
      rcases hfill : (fillBuilder script t.builders.size).exec env _ with ⟨outcome, u⟩
      refine .of_succ ?_
      simp only [Resolve.members]
      cases outcome with
      | error fault =>
          rw [exec_bind_error hfill] at hends hkeeps
          refine .of_exec hends.fail hkeeps fun _ other => ?_
          rw [exec_bind_ok (hnew _)]
          exact exec_bind_error ((exec_fillBuilder_depth _ _ _ _ _).trans hfill)
      | ok x =>
          rw [exec_bind_ok hfill] at hends hkeeps ih
          cases hb : u.builders[t.builders.size]? with
          | none =>
              rw [exec_draft_of_none hb] at hkeeps
              have hbounded : Bounded (.error .missingMember : Except Fault (List Condition)) := .throw nofun
              refine .of_exec hbounded hkeeps fun _ other => ?_
              rw [exec_bind_ok (hnew _), exec_bind_ok ((exec_fillBuilder_depth _ _ _ _ _).trans hfill)]
              exact exec_bind_error (exec_draftOf_of_none hb)
          | some b =>
              rw [exec_draft hb] at hkeeps ih
              obtain ⟨enough, outcome, v, houtcome, hv, hexec⟩ : Ends env _ _ := Ends.criteria none true rfl
                fun c hc inner hkey v hv => ih _ rfl c hc inner hkey (hst.trans (hkeeps.trans hv))
              refine ⟨enough, outcome, v, houtcome, hkeeps.trans hv, fun depth hdepth other => ?_⟩
              rw [exec_bind_ok (hnew _), exec_bind_ok ((exec_fillBuilder_depth _ _ _ _ _).trans hfill),
                exec_bind_ok (exec_draftOf hb)]
              exact hexec depth hdepth other

end Act

/-! ### Projections -/

namespace Footprint

variable {p : Footprint}

/-- The scripts of all groups among the parts are finite. -/
def Finite (p : Footprint) (env : Surroundings) (s : Session) : Prop :=
  ∀ n ∈ p.drafts, ∀ c ∈ (s.drafts[n]?.getD {}).conditions, ∀ script, c.key = .group script → Act.Finite env s script

namespace Closed

variable (hp : p.Closed s) (hfinite : p.Finite env s) (hst : Keeping s t)

include hp hfinite hst

theorem ends_criteria {list : Draft → Option (List Criterion)} (qualifier : Option String) (isBound : Bool)
    (hempty : (list {}).getD [] = []) (hlist : ∀ d, ∀ c ∈ (list d).getD [], c ∈ d.conditions) (hn : n ∈ p.drafts) :
    Ends env (fun depth => Resolve.criteria (Resolve.members depth) qualifier isBound list n) t := by
  refine .criteria qualifier isBound hempty fun c hc script hkey u hu => ?_
  rw [hst.drafts n (hp.kept n hn)] at hc
  exact (hfinite n hn c (hlist _ c hc) script hkey).ends (hst.trans hu)

theorem ends_join {j : DraftJoin} (hj : ∀ k, j.builder = some k → ∃ b, s.builders[k]? = some b ∧ b.draft ∈ p.drafts) :
    Ends env (fun depth => Resolve.join depth j) t := by
  refine .read_bind (fun _ => rfl) (.check_bind (.unlessCallable _ (.joined _)) fun _ u hu => .bind ?_ fun _ _ _ => ?_)
  · cases hbuilder : j.builder with
    | none => exact .pure _
    | some k =>
        obtain ⟨b, hb, hn⟩ := hj k hbuilder
        obtain ⟨b', hb', hdraft⟩ := (hst.trans hu).builders k b hb
        have hread : ∀ other, (Act.draftOf k).exec { env with depth := other } u = (.ok b.draft, u) := fun _ =>
          (exec_draftOf hb').trans (by rw [hdraft])
        refine .bind (.read_bind hread ?_) fun _ _ _ => .pure _
        exact hp.ends_criteria hfinite (hst.trans hu) none false rfl
          (fun d c hc => List.mem_append_left _ (List.mem_append_right _ hc)) hn
  · split
    · exact .check_bind (.requireTable _) fun _ _ _ => .pure _
    · exact .throw nofun

/-- The clauses of a builder among the parts come to an end. -/
theorem ends_selectClauses (hn : p.Holds s n) : Ends env (fun depth => Resolve.selectClauses depth n) t := by
  have hbound : ∀ {u} (qualifier : Option String) {list : Draft → Option (List Criterion)},
      (list {}).getD [] = [] → (∀ d, ∀ c ∈ (list d).getD [], c ∈ d.conditions) → Keeping s u →
        Ends env (fun depth => Resolve.bound depth qualifier list n) u := fun qualifier _ hempty hlist hu =>
    hp.ends_criteria hfinite hu qualifier true hempty hlist hn.draft
  refine .read_bind (fun _ => rfl) (.read_bind (fun _ => rfl) ?_)
  refine .check_bind (.distinct _) fun _ u hu => ?_
  refine .check_bind (.mapM (fun _ => .unlessCallable _ (.table _)) _) fun _ v hv => ?_
  refine .bind (.lift (.qualifierOf _)) fun qualifier w hw => ?_
  have hst := hst.trans (hu.trans (hv.trans hw))
  refine .bind (.each rfl fun j hj place u hu => ?_) fun joins u hu => ?_
  · rw [hst.drafts n (hp.kept n hn.draft)] at hj
    exact hp.ends_join hfinite (hst.trans hu) (hn.join j hj)
  have hst := hst.trans hu
  refine .bind (hbound qualifier rfl (fun _ _ hc => List.mem_append_left _ (List.mem_append_left _ hc)) hst)
    fun wheres u hu => ?_
  have hst := hst.trans hu
  refine .bind ?_ fun groupBys u hu => ?_
  · exact .read_bind (fun _ => rfl) (.read_bind (fun _ => rfl) (.check_bind (.groups _) fun _ _ _ => .pure _))
  have hst := hst.trans hu
  refine .bind (hbound qualifier rfl (fun _ _ hc => List.mem_append_right _ hc) hst) fun havings u hu => ?_
  have hst := hst.trans hu
  refine .bind ?_ fun orderBys u hu => ?_
  · exact .read_bind (fun _ => rfl) (.read_bind (fun _ => rfl) (.check_bind (.orders _) fun _ _ _ => .pure _))
  exact .read_bind (fun _ => rfl) (.check_bind (.select _) fun _ _ _ => .pure _)

end Closed

end Footprint

end SqlBuilder
