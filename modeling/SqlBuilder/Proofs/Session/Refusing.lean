import SqlBuilder.Proofs.Session.Barred

/-!
What fails on builders of a transaction that has ended: whatever executes something, unless a result is pending or a
batch has no rows. While the driver has a transaction open, a batch is inserted row by row and meets the closed scope
with its first row.
-/

namespace SqlBuilder

open Act Session

variable {α β : Type} {env : Surroundings} {s t : Session} {scope id : Nat} {status : TransactionStatus}

/-! ### Builders without a pending result -/

namespace Act

/-- The operation never succeeds on a builder of the closed scope that has no pending result. -/
def Unanswered (env : Surroundings) (scope : Nat) (status : TransactionStatus) (id : Nat) (op : Act α) : Prop :=
  ∀ s, s.Closed scope status → s.Idle scope id → ∀ x, (op.exec env s).1 ≠ .ok x

namespace Unanswered

theorem of_refused {op : Act α} (h : Refused env scope status id op) : Unanswered env scope status id op :=
  fun s hs hid => h.fails s ⟨hs, hid.inScope⟩

/-- Nothing follows an operation that fails. -/
theorem bind {op : Act α} {k : α → Act β} (hop : Unanswered env scope status id op) :
    Unanswered env scope status id (op >>= k) := by
  intro s hs hid y hy
  obtain ⟨x, t, hx, -⟩ := exec_bind_eq_ok (Prod.ext hy rfl)
  exact hop s hs hid x (congrArg Prod.fst hx)

theorem after {op : Act α} {k : α → Act β} (hop : Keeps Extends env op)
    (hk : ∀ x, Unanswered env scope status id (k x)) : Unanswered env scope status id (op >>= k) := by
  intro s hs hid y hy
  obtain ⟨x, t, hx, hkx⟩ := exec_bind_eq_ok (Prod.ext hy rfl)
  have ht := hop.of_exec hx
  exact hk x t (ht.closed _ _ hs) (hid.later hs ht) y (congrArg Prod.fst hkx)

end Unanswered

end Act

namespace Execute

variable [env.Keeps Extends]

theorem unanswered_selectRows : Unanswered env scope status id (selectRows id) := by
  refine .after (.blind (blind_prepare _ _)) fun early => .after (.blind (blind_fire _ _ _ _)) fun _ => ?_
  refine .after (.blind (blind_prepare _ _)) fun i s hs hid => ?_
  obtain ⟨b, hb, hrole, hpending⟩ := hid
  rw [exec_bind_ok (exec_builder_of_some hb)]
  simp only [hpending]
  have hrun : Unanswered env scope status id (run id i) := .of_refused (refused_statement _ _)
  exact hrun.bind s hs ⟨b, hb, hrole, hpending⟩

theorem unanswered_fetchAll : Unanswered env scope status id (fetchAll id) := unanswered_selectRows.bind

theorem unanswered_first : Unanswered env scope status id (first id) :=
  .after (.blind (.modifyDraft _ _)) fun _ => unanswered_fetchAll.bind

theorem unanswered_withProjection (projection : List Field) {operation : Act α}
    (hop : Unanswered env scope status id operation) :
    Unanswered env scope status id (withProjection id projection operation) := by
  refine .after (.blind (.draft _)) fun d => .after (.blind (.modifyDraft _ _)) fun _ s hs hid x hx => ?_
  rw [exec_bind_ok (exec_observed operation)] at hx
  obtain ⟨_, t, -, hlift⟩ := exec_bind_eq_ok (Prod.ext hx rfl)
  rw [exec_lift] at hlift
  exact hop s hs hid x (congrArg Prod.fst hlift)

theorem unanswered_expressionRows (expression : Value) :
    Unanswered env scope status id (expressionRows id expression) := by
  refine .after (.blind (.draft _)) fun d => ?_
  split
  · refine .after (.blind (.builderValue _)) fun v => .after (.blind (Declare.blind_subQuery _ _)) fun wrapped => ?_
    intro s hs hid x hx
    obtain ⟨wrapper, t, htable, hrest⟩ := exec_bind_eq_ok (Prod.ext hx rfl)
    have ht : Extends _ _ := (Keeps.blind (Declare.blind_table _ _)).of_exec htable
    have hwrapper : t.Idle scope wrapper := Declare.table_idle hs hid htable
    have hrows : Unanswered env scope status wrapper (do
        let b ← Act.builder wrapper
        Act.modifyDraft wrapper (Draft.select b.lead b.overwriting.isTruthy [expression])
        selectRows wrapper) :=
      .after (.blind (.builder _)) fun _ => .after (.blind (.modifyDraft _ _)) fun _ => unanswered_selectRows
    exact hrows t (ht.closed _ _ hs) hwrapper x (congrArg Prod.fst hrest)
  · exact unanswered_withProjection _ unanswered_selectRows

theorem unanswered_aggregate (function : String) (field : Value) :
    Unanswered env scope status id (aggregate id function field) := by
  refine .after (.blind (.draft _)) fun d => ?_
  refine Modular.joined (P := Unanswered env scope status id) (fun _ => ?_) fun h =>
    .after (.lift _) fun _ => .after (.throw _) h
  refine Modular.joined (P := Unanswered env scope status id) (fun _ => ?_) fun h => .after (.throw _) h
  refine .after (.lift _) fun _ => .after (.blind .dialect) fun _ => .after (.lift _) fun _ => ?_
  exact (unanswered_expressionRows _).bind

end Execute

/-! ### Insertions -/

namespace Transaction

theorem insert_batch {verb : InsertVerb} {v : Value} {rows : Nat → Act (List Value)} (h : rowsOf verb v = some rows) :
    insert verb id v = batch id rows := by
  unfold rowsOf at h
  split at h
  all_goals cases h
  all_goals
    unfold insert
    rfl

/-- The operation is barred from the given state on, and where it succeeds the state is as it was. -/
structure StillAt (env : Surroundings) (scope : Nat) (status : TransactionStatus) (op : Act α) (s : Session) :
    Prop extends BarredAt env scope status op s where
  still : ∀ x t, op.exec env s = (.ok x, t) → t = s

theorem still_batch {rows : Nat → Act (List Value)} (hin : s.driver.inTransaction = true)
    (hrows : StillAt env scope status (do pure (.list (← rows id)) : Act Value) s) :
    StillAt env scope status (batch id rows) s := by
  constructor
  · refine BarredAt.get_bind ?_ rfl
    rw [if_pos hin]
    exact hrows.toBarredAt
  · intro x t h
    obtain ⟨u, v, hu, hrest⟩ := exec_bind_eq_ok h
    cases hu
    rw [if_pos hin] at hrest
    exact hrows.still x t hrest

section Still

variable [env.Keeps Extends]

theorem still_pure (x : α) (hs : s.Shut scope status id) : StillAt env scope status (pure x) s :=
  ⟨Barred.blind (fun _ => .pure x) s hs, fun _ _ h => (congrArg Prod.snd h).symm⟩

theorem still_throw (fault : Fault) (hs : s.Shut scope status id) :
    StillAt env scope status (throw fault : Act α) s :=
  ⟨Barred.blind (fun _ => .throw fault) s hs, fun _ _ h => nomatch h⟩

theorem still_bind {op : Act α} {k : α → Act β} (hop : StillAt env scope status op s)
    (hk : ∀ x, StillAt env scope status (k x) s) : StillAt env scope status (op >>= k) s := by
  constructor
  · refine hop.toBarredAt.bind fun x t h _ => ?_
    rw [hop.still x t h]
    exact (hk x).toBarredAt
  · intro y u h
    obtain ⟨x, t, hx, hkx⟩ := exec_bind_eq_ok h
    rw [hop.still x t hx] at hkx
    exact (hk x).still y u hkx

theorem still_insertRow (verb : InsertVerb) (data : Value) (hs : s.Shut scope status id) :
    StillAt env scope status (Execute.insertRow id verb data) s := by
  refine ⟨(Execute.refused_insertRow verb data).barred s hs, fun x t h => ?_⟩
  exact absurd (congrArg Prod.fst h) ((Execute.refused_insertRow verb data).fails s hs x)

end Still

mutual

/-- While the driver has a transaction open, a batch is inserted row by row on the closed builder. -/
theorem still_insert [env.Keeps Extends] (verb : InsertVerb) (hs : s.Shut scope status id)
    (hin : s.driver.inTransaction = true) (v : Value) : StillAt env scope status (insert verb id v) s := by
  unfold insert
  split
  · exact still_insertRow verb _ hs
  · exact still_batch hin (still_bind (still_insertAll verb hs hin _) fun _ => still_pure _ hs)
  · exact still_batch hin (still_bind (still_insertAll verb hs hin _) fun _ => still_pure _ hs)
  · exact still_batch hin (still_bind (still_insertAll verb hs hin _) fun _ => still_pure _ hs)
  · refine still_batch hin (still_bind ?_ fun _ => still_pure _ hs)
    split
    · exact still_pure _ hs
    · exact still_throw _ hs
  · refine still_batch hin (still_bind ?_ fun _ => still_pure _ hs)
    split
    · exact still_pure _ hs
    · exact still_throw _ hs
  · exact still_throw _ hs

theorem still_insertAll [env.Keeps Extends] (verb : InsertVerb) (hs : s.Shut scope status id)
    (hin : s.driver.inTransaction = true) (vs : List Value) :
    StillAt env scope status (insertAll verb id vs) s := by
  unfold insertAll
  split
  · exact still_pure _ hs
  · exact still_bind (still_insert verb hs hin _) fun _ =>
      still_bind (still_insertAll verb hs hin _) fun _ => still_pure _ hs

end

variable [env.Keeps Extends]

/-- A row is refused, and so is what is neither a row nor a batch. -/
theorem refused_insert {verb : InsertVerb} {v : Value} (h : rowsOf verb v = none) :
    Refused env scope status id (insert verb id v) := by
  unfold rowsOf at h
  unfold insert
  split
  · exact Execute.refused_insertRow _ _
  · cases h
  · cases h
  · cases h
  · cases h
  · cases h
  · exact .throw _

theorem barred_insert (verb : InsertVerb) (hs : s.Shut scope status id) {v : Value}
    (hv : (rowsOf verb v).isSome → s.driver.inTransaction = true) :
    BarredAt env scope status (insert verb id v) s := by
  cases h : rowsOf verb v with
  | none => exact (refused_insert h).barred s hs
  | some rows => exact (still_insert verb hs (hv (by rw [h]; rfl)) v).toBarredAt

theorem refused_finish (ending : TransactionStatus) : Refused env scope status id (finish id ending) :=
  Execute.refused_requireOpen.bind

/-- The probe of a row is made on a copy, which has no pending result, so that nothing follows. -/
theorem refused_updateOrInsert (data : Value) : Refused env scope status id (updateOrInsert id data) := by
  have hprobe : ∀ {s t : Session} {probe : Nat}, s.Shut scope status id →
      (Declare.clone env.depth id).exec env s = (.ok probe, t) → t.Closed scope status ∧ t.Idle scope probe := by
    intro s t probe hs hclone
    have ht : Extends s t := (Keeps.blind (Declare.blind_clone _ _)).of_exec hclone
    exact ⟨ht.closed _ _ hs.closed, Declare.clone_idle _ hs.inScope hclone⟩
  constructor
  · intro s hs
    refine BarredAt.depth_bind ?_ fun _ h => by simp only [h]
    refine (Barred.blind (fun _ => Declare.blind_clone _ _) s hs).bind fun probe t hclone _ => ?_
    obtain ⟨hclosed, hidle⟩ := hprobe hs hclone
    refine (Execute.barred_first t ⟨hclosed, hidle.inScope⟩).bind fun v u hfirst _ => ?_
    exact absurd (congrArg Prod.fst hfirst) (Execute.unanswered_first t hclosed hidle v)
  · intro s hs x hx
    obtain ⟨around, t, hread, hrest⟩ := exec_bind_eq_ok (Prod.ext hx rfl)
    cases hread
    obtain ⟨probe, t, hclone, hrest⟩ := exec_bind_eq_ok hrest
    obtain ⟨hclosed, hidle⟩ := hprobe hs hclone
    obtain ⟨v, u, hfirst, -⟩ := exec_bind_eq_ok hrest
    exact Execute.unanswered_first t hclosed hidle v (congrArg Prod.fst hfirst)

end Transaction

end SqlBuilder
