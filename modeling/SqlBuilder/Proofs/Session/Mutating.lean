import SqlBuilder.Proofs.Session.Callback
import SqlBuilder.Proofs.Session.Sparing

/-!
The calls that change what a builder declares, with the aggregates, which change it for as long as they execute. None
of them reaches the footprint of a builder that the called one stands apart from, and so does no sequence of them.
-/

namespace SqlBuilder

open Act Footprint

variable {α β : Type} {env : Surroundings} {p : Footprint} {s t u : Session} {a k : Nat} {K : List Nat}

/-! ### Aggregates -/

instance [env.Keeps (p.Guarded a [])] : env.Executes (p.Guarded a K) where
  statement c s hc :=
    (Keeping.of_eq rfl rfl (DriverCall.engine_after_statement hc) rfl rfl rfl : Keeping s (s.called c)).guarded
  pending id _ _ _ result _ t _ hst :=
    trans_of _ hst (Keeping.modifyBuilder t id (f := fun b => { b with pending := some result }) fun _ => rfl).guarded

namespace Execute

section Keeping

/-! Relations that allow everything that leaves alone the drafts that there are. -/

variable {R : Session → Session → Prop} [IsPreorder Session R] [env.Executes R] (hR : ∀ s t, Keeping s t → R s t)

include hR

omit [env.Executes R] in
theorem making_of_keeping [env.Keeps R] : Making (Keeps R env) :=
  Keeps.making (fun _ s => hR _ _ ((Keeping.pushDraft s {}).trans (.pushBuilder _ _)))
    fun _ _ => hR _ _ (.of_eq rfl rfl rfl rfl rfl rfl)

theorem selectRows_of_keeping (id : Nat) : Keeps R env (selectRows id) := by
  have hmaking : Making (Keeps R env) := making_of_keeping hR
  refine .bind (hmaking.prepare _ _) fun _ => .bind (hmaking.fire _ _ _ _) fun _ => ?_
  refine .bind (hmaking.prepare _ _) fun _ => .bind (.builder _) fun _ => ?_
  dsimp only
  split
  · exact .bind (keeps_statement _ _ _) fun _ => .bind (hmaking.fire _ _ _ _) fun _ => .pure _
  · refine .bind (fun s => hR _ _ (.modifyBuilder s id fun _ => rfl)) fun _ => .bind (.pure _) fun _ => ?_
    exact .bind (hmaking.fire _ _ _ _) fun _ => .pure _

/-- All that an aggregate does apart from its rows. -/
theorem aggregate_of_keeping (id : Nat) (function : String) (field : Value)
    (hrows : ∀ content, Keeps R env (expressionRows id (.raw content []))) :
    Keeps R env (aggregate id function field) := by
  have hmaking : Making (Keeps R env) := making_of_keeping hR
  refine .bind (.draft _) fun _ => ?_
  refine Modular.joined (P := Keeps R env) (fun _ => ?_) fun h => .bind (.lift _) fun _ => .bind (.throw _) h
  refine Keeps.modular.whenever (.throw _) fun _ => ?_
  refine .bind (.lift _) fun _ => .bind hmaking.dialect fun _ => .bind (.lift _) fun _ => ?_
  refine .bind (hrows _) fun _ => ?_
  split
  · exact .pure _
  · exact .pure _
  · refine .bind (.lift _) fun x => ?_
    unfold Act.marked
    split
    · exact fun _ => hR _ _ (.of_eq rfl rfl rfl rfl rfl rfl)
    · exact .pure _

end Keeping

variable [env.Keeps (p.Guarded a [])]

theorem guarded_selectRows (k : Nat) : Keeps (p.Guarded a K) env (selectRows k) :=
  selectRows_of_keeping (fun _ _ h => h.guarded) k

omit [env.Keeps (p.Guarded a [])] in
theorem guarded_withProjection (hk : k = a ∨ k ∈ K) (projection : List Field) {operation : Act α}
    (h : Keeps (p.Guarded a K) env operation) :
    Keeps (p.Guarded a K) env (withProjection k projection operation) := by
  refine .bind (.draft _) fun _ => .bind (.keeping_joins hk fun _ => rfl) fun _ => ?_
  refine .bind (.tryCatch (.bind h fun _ => .pure _) fun _ => .pure _) fun _ => ?_
  exact .bind (.keeping_joins hk fun _ => rfl) fun _ => .lift _

theorem guarded_expressionRows (hk : k = a ∨ k ∈ K) (expression : Value) :
    Keeps (p.Guarded a K) env (expressionRows k expression) := by
  refine .bind (.draft _) fun _ => ?_
  split
  · refine .bind (Keeps.declaring.making.builderValue _) fun _ => ?_
    refine .bind (Keeps.declaring.making.subQuery _ _) fun wrapped => ?_
    refine Keeps.declaring.table_bind hk _ fun wrapper K hwrapper => .bind (.builder _) fun b => ?_
    exact .bind (.keeping_joins hwrapper fun _ => rfl) fun _ => guarded_selectRows _
  · exact guarded_withProjection hk _ (guarded_selectRows _)

theorem guarded_aggregate (hk : k = a ∨ k ∈ K) (function : String) (field : Value) :
    Keeps (p.Guarded a K) env (aggregate k function field) :=
  aggregate_of_keeping (fun _ _ h => h.guarded) k function field fun _ => guarded_expressionRows hk _

end Execute

/-! ### Calls -/

/-- A union changes its member, too. -/
theorem Declare.guarded_union (hk : k = a ∨ k ∈ K) {member kind : Value}
    (hmember : ∀ role m, member = .builder role m → m = a ∨ m ∈ K) :
    Keeps (p.Guarded a K) env (union k member kind) := by
  refine .bind (.lift _) fun _ => ?_
  split
  · rename_i role m
    refine .bind (.draft _) fun _ => ?_
    have hpush : ∀ kind, Keeps (p.Guarded a K) env (Act.modifyDraft k fun d =>
        { d with unions := extended d.unions [{ kind, builder := m }] }) :=
      fun _ => .keeping_joins hk fun _ => rfl
    dsimp only
    split
    · exact hpush _
    · refine .bind (.keeping_joins hk fun _ => rfl) fun _ => ?_
      exact .bind (.keeping_joins (hmember role m rfl) fun _ => rfl) fun _ => hpush _
  · exact .throw _

namespace BuilderCall

/-- The builder that the call takes to be united with. -/
def member? : BuilderCall → Option Nat
  | union (.builder _ member) _ => some member
  | _ => none

/-- The builder that is called and the one that the call takes may be changed. -/
theorem guarded_perform [env.Keeps (p.Guarded a [])] {c : BuilderCall} (hc : c.IsMutation) (hk : k = a ∨ k ∈ K)
    (hmember : ∀ m, c.member? = some m → m = a ∨ m ∈ K) : Keeps (p.Guarded a K) env (c.perform k) := by
  refine Keeps.declaring.perform hc hk (fun member kind hunion => ?_) (fun field _ => ?_) fun function field _ => ?_
  · refine Declare.guarded_union hk fun role m hm => hmember m ?_
    rw [hunion, hm]
    rfl
  · exact .bind (Execute.guarded_aggregate hk _ _) fun _ => .lift _
  · exact Execute.guarded_aggregate hk _ _

end BuilderCall

/-! ### Sequences of calls -/

/-- Calls that change what the builder declares, or what those of its joins do, in any order and with anything in
between that leaves the parts and the builder alone. No call takes a builder that is one of the parts, and the scripts
that a call runs do not reach them. -/
inductive Mutations (env : Surroundings) (p : Footprint) (a : Nat) : Session → Session → Prop where
  | refl (s : Session) : Mutations env p a s s
  | call {s t : Session} (h : Mutations env p a s t) (k : Nat) (c : BuilderCall) (hc : c.IsMutation)
      (hk : k = a ∨ ∃ j ∈ (t.declared a).joins.getD [], j.builder = some k)
      (hmember : ∀ m, c.member? = some m → p.Free t m)
      (hscripts : Confined (p.Guarded a []) env (c.perform k) t) : Mutations env p a s ((c.perform k).exec env t).2
  | other {s t u : Session} (h : Mutations env p a s t) (hspares : p.Spares t u) (hapart : p.Apart u a) :
      Mutations env p a s u

namespace Mutations

/-- One call spares the parts, and the builder still stands apart from them. -/
theorem spares_call (hapart : p.Apart s a) {c : BuilderCall} (hc : c.IsMutation)
    (hk : k = a ∨ ∃ j ∈ (s.declared a).joins.getD [], j.builder = some k)
    (hmember : ∀ m, c.member? = some m → p.Free s m)
    (hscripts : Confined (p.Guarded a []) env (c.perform k) s) :
    p.Spares s ((c.perform k).exec env s).2 ∧ p.Apart ((c.perform k).exec env s).2 a := by
  have hfree : p.Free s k := by
    obtain rfl | ⟨j, hj, hjk⟩ := hk
    · exact hapart.free
    · exact hapart.join j hj k hjk
  have hguarded : Keeps (p.Guarded a (k :: c.member?.toList)) (env.within (p.Guarded a [])) (c.perform k) := by
    refine BuilderCall.guarded_perform hc (.inr List.mem_cons_self) fun m hm => ?_
    rw [hm]
    exact .inr (List.mem_cons_of_mem k (List.mem_singleton_self m))
  rw [← hscripts]
  refine hguarded s hapart (List.forall_mem_cons.2 ⟨hfree, fun m hm => hmember m ?_⟩)
  exact Option.mem_toList.1 hm

/-- Whatever sequence of calls spares the parts. -/
theorem spares (h : Mutations env p a s t) (hapart : p.Apart s a) : p.Spares s t ∧ p.Apart t a := by
  induction h with
  | refl => exact ⟨.refl p s, hapart⟩
  | call h k c hc hk hmember hscripts ih =>
      obtain ⟨hspares, hapart'⟩ := ih
      obtain ⟨hspares', hapart''⟩ := spares_call hapart' hc hk hmember hscripts
      exact ⟨hspares.trans hspares', hapart''⟩
  | other h hspares' hapart'' ih => exact ⟨ih.1.trans hspares', hapart''⟩

end Mutations

end SqlBuilder
