import SqlBuilder.Proofs.Session.Footprint
import SqlBuilder.Proofs.Session.Hookless
import SqlBuilder.Proofs.Session.Lifecycle
import SqlBuilder.Proofs.Transaction.Control

/-!
Operations that note what they hand over. Without hooks each execution that succeeds leaves the statement that it has
handed to the driver as the last one noted, and so does whatever is put together from executions: aggregates, which
select from the builder or from a new one, and batches with the transactions around them.
-/

namespace SqlBuilder

open Act Session

variable {α β : Type} {env : Surroundings} {R : Session → Session → Prop} {p : Session → Prop} {s t u : Session}
  {id : Nat}

/-! ### Operations that succeed -/

namespace Act

theorem exec_draft_eq_ok {d : Draft} (h : (draft id).exec env s = (.ok d, t)) : d = s.declared id ∧ t = s := by
  obtain ⟨number, u, hnumber, -⟩ := exec_bind_eq_ok h
  obtain ⟨b, v, hb, -⟩ := exec_bind_eq_ok hnumber
  obtain ⟨hb, -⟩ := exec_builder_eq_ok hb
  rw [exec_draft hb] at h
  cases h
  exact ⟨(declared_eq hb).symm, rfl⟩

/-- Where the operation succeeds, the state is related to the one before. -/
def Leads (R : Session → Session → Prop) (env : Surroundings) (op : Act α) : Prop :=
  ∀ s x t, op.exec env s = (.ok x, t) → R s t

theorem Keeps.leads {op : Act α} (h : Keeps R env op) : Leads R env op := fun _ _ _ hexec => h.of_exec hexec

theorem Leads.mono {R' : Session → Session → Prop} {op : Act α} (h : Leads R env op) (hR : ∀ s t, R s t → R' s t) :
    Leads R' env op := fun s x t hexec => hR s t (h s x t hexec)

theorem Leads.bind [IsPreorder Session R] {op : Act α} {k : α → Act β} (hop : Leads R env op)
    (hk : ∀ x, Leads R env (k x)) : Leads R env (op >>= k) := by
  intro s y u h
  obtain ⟨x, t, hexec, h⟩ := exec_bind_eq_ok h
  exact trans_of R (hop s x t hexec) (hk x t y u h)

/-- An operation in front that changes nothing. -/
theorem Leads.behind {op : Act α} {k : α → Act β} (hop : Keeps Eq env op) (hk : ∀ x, Leads R env (k x)) :
    Leads R env (op >>= k) := by
  intro s y u h
  obtain ⟨x, t, hexec, h⟩ := exec_bind_eq_ok h
  obtain rfl : s = t := hop.of_exec hexec
  exact hk x s y u h

end Act

namespace Session

/-- Without hooks, a course in which the statement noted last is the one handed over last, if one is. -/
def Told (s t : Session) : Prop := s.Hookless →
  t.Hookless ∧ ∃ ms, Course s ms t ∧ t.lastNoted = (Move.handed ms).getLast?.or s.lastNoted

/-- Without hooks and under the condition, a course in which a statement is handed over, and the last one is noted. -/
def HandsOver (p : Session → Prop) (s t : Session) : Prop := s.Hookless → p s →
  t.Hookless ∧ ∃ ms last, Course s ms t ∧ (Move.handed ms).getLast? = some last ∧ t.lastNoted = some last

instance : IsPreorder Session Told where
  refl s hs := ⟨hs, [], .refl s, rfl⟩
  trans s t u h h' hs := by
    obtain ⟨ht, ms, hcourse, hnoted⟩ := h hs
    obtain ⟨hu, ms', hcourse', hnoted'⟩ := h' ht
    refine ⟨hu, _, hcourse.append hcourse', ?_⟩
    rw [hnoted', hnoted, Move.handed_append, List.getLast?_append, Option.or_assoc]

theorem Rests.told (h : Rests s t) : Told s t := by
  intro hs
  obtain ⟨ht, ⟨ms, hcourse, hms⟩, hlast⟩ := h hs
  refine ⟨ht, ms, hcourse, ?_⟩
  rw [hms, lastNoted, hlast]
  rfl

theorem HandsOver.told (h : HandsOver p s t) (hp : p s) : Told s t := by
  intro hs
  obtain ⟨ht, ms, last, hcourse, hlast, hnoted⟩ := h hs hp
  refine ⟨ht, ms, hcourse, ?_⟩
  rw [hlast, hnoted]
  rfl

/-- Nothing of what scripts do on the way counts behind a statement that is handed over. -/
theorem HandsOver.behind (h : HandsOver p t u) (hfront : Unhooked s t) (hp : p t) : HandsOver (fun _ => True) s u := by
  intro hs _
  obtain ⟨ms, hcourse⟩ := hfront.course
  obtain ⟨hu, ms', last, hcourse', hlast, hnoted⟩ := h (hfront.hookless hs) hp
  refine ⟨hu, _, last, hcourse.append hcourse', ?_, hnoted⟩
  rw [Move.handed_append, List.getLast?_append, hlast]
  rfl

/-- What follows may hand more over, as long as it notes that. -/
theorem HandsOver.andTold (h : HandsOver p s t) (hback : Told t u) : HandsOver p s u := by
  intro hs hp
  obtain ⟨ht, ms, last, hcourse, hlast, hnoted⟩ := h hs hp
  obtain ⟨hu, ms', hcourse', hnoted'⟩ := hback ht
  obtain ⟨last', hlast'⟩ : ∃ last', (Move.handed ms').getLast?.or (some last) = some last' := by
    cases (Move.handed ms').getLast? with
    | none => exact ⟨last, rfl⟩
    | some last' => exact ⟨last', rfl⟩
  refine ⟨hu, _, last', hcourse.append hcourse', ?_, ?_⟩
  · rw [Move.handed_append, List.getLast?_append, hlast, hlast']
  · rw [hnoted', hnoted, hlast']

/-- Where the condition holds it can be left out. -/
theorem HandsOver.always (h : HandsOver p s t) (hp : p s) : HandsOver (fun _ => True) s t := fun hs _ => h hs hp

/-- What scripts may do does not bring about that the condition fails. -/
def Stable (p : Session → Prop) : Prop := ∀ s t, Unhooked s t → p s → p t

theorem stable_vacant (id : Nat) : Stable fun s => s.Vacant id := fun _ _ h => h.vacant id

theorem stable_true : Stable fun _ => True := fun _ _ _ _ => trivial

end Session

namespace Act.Leads

theorem front {op : Act α} {k : α → Act β} (hp : Stable p) (hop : Keeps Unhooked env op)
    (hk : ∀ x, Leads (HandsOver p) env (k x)) : Leads (HandsOver p) env (op >>= k) := by
  intro s y u h hs hps
  obtain ⟨x, t, hexec, h⟩ := exec_bind_eq_ok h
  have hfront := hop.of_exec hexec
  exact (hk x t y u h).behind hfront (hp _ _ hfront hps) hs trivial

theorem back {op : Act α} {k : α → Act β} (hop : Leads (HandsOver p) env op) (hk : ∀ x, Keeps Rests env (k x)) :
    Leads (HandsOver p) env (op >>= k) := by
  intro s y u h
  obtain ⟨x, t, hexec, h⟩ := exec_bind_eq_ok h
  exact (hop s x t hexec).andTold ((hk x).of_exec h).told

theorem told {op : Act α} (h : Leads (HandsOver fun _ => True) env op) : Leads Told env op :=
  h.mono fun _ _ hover => hover.told trivial

end Act.Leads

theorem Act.Keeps.told {op : Act α} (h : Keeps Rests env op) : Leads Told env op := (h.mono fun _ _ => Rests.told).leads

/-! ### Executions -/

namespace Execution

open Execute

variable {x : Execution} {i : Issued} {result : QueryResult}

/-- What has been made ready is handed over, as the statement that was noted last. A selection needs a builder without
a pending result. -/
theorem leads_handOver [env.Keeps Unhooked] (hp : Stable p) (hselect : x = .select → ∀ t, p t → t.Vacant id)
    {k : Issued → QueryResult → Act α} (hk : ∀ i result, Keeps Rests env (k i result)) :
    Leads (HandsOver p) env (do
      let i ← x.ready id
      let result ← x.handOver id i
      k i result) := by
  intro s y u h hs hps
  -- scripts may have handed other statements over in front, but this one is noted behind them
  obtain ⟨i, t, hready, h⟩ := exec_bind_eq_ok h
  obtain ⟨result, v, hhand, h⟩ := exec_bind_eq_ok h
  have hfront := (unhooked_ready id x).of_exec hready
  have hlast := lastStatement_of_ready_hookless hs hready
  have hrun : (run id i).exec env t = (.ok result, v) := by
    cases x with
    | select =>
        obtain ⟨b, hb, hpending⟩ := hselect rfl t (hp _ _ hfront hps)
        exact (exec_handOver_none hb hpending).symm.trans hhand
    | _ => exact hhand
  obtain ⟨-, rfl⟩ := run_eq_ok hrun
  obtain ⟨ms, hcourse⟩ := hfront.course
  have hover : HandsOver p s (t.called (.execute i.sql i.bindings)) := by
    refine fun _ _ => ⟨hfront.hookless hs, _, (i.sql, i.bindings), hcourse.append (.called t _), ?_, ?_⟩
    · rw [Move.handed_append]
      exact List.getLast?_concat
    · exact congrArg (Option.map fun i : Issued => (i.sql, i.bindings)) hlast
  exact hover.andTold ((hk i result).of_exec h).told hs hps

/-- The driver may be asked for an identifier, and a result may be kept for the next fetch. -/
theorem rests_conclude (id : Nat) (i : Issued) (result : QueryResult) (x : Execution) :
    Keeps Rests env (x.conclude id i result) := by
  have hask : Keeps Rests env (x.ask result) := by
    unfold ask
    split
    · intro s
      rw [exec_driver]
      exact .of_course (.called s .askInsertId) rfl rfl rfl
    · exact .pure _
  rw [conclude_eq]
  refine .bind hask fun insertId => .bind ((intact_fire _ _ _ _).mono fun _ _ => Intact.rests) fun _ => ?_
  cases x with
  | select =>
      refine .bind (.builder _) fun b => .bind ?_ fun _ => .pure _
      unfold objectsOf
      split
      · exact .pure _
      · exact .lift _
  | query sql values =>
      refine .bind (fun s => ?_) fun _ => .bind (.builder _) fun _ => .pure _
      exact .of_course (.still rfl rfl (.modifyBuilder s id fun _ => rfl)) rfl rfl rfl
  | _ => exact .pure _

theorem leads_call [env.Keeps Unhooked] (hp : Stable p) (hselect : x = .select → ∀ t, p t → t.Vacant id) :
    Leads (HandsOver p) env (x.call.perform id) := by
  rw [perform_call]
  exact leads_handOver hp hselect fun i result => rests_conclude id i result x

/-- Anything but a selection is handed over in any case. -/
theorem told_call [env.Keeps Unhooked] (hx : x ≠ .select) : Leads Told env (x.call.perform id) :=
  Leads.told (leads_call stable_true fun hselect => absurd hselect hx)

end Execution

namespace Execute

variable [env.Keeps Unhooked]

theorem selectRows_eq (id : Nat) : selectRows id = (do
    let i ← Execution.select.ready id
    let result ← Execution.select.handOver id i
    let _ ← fire id .afterSelect (some i) (.map [timing])
    pure result.rows) := by
  simp only [selectRows, Execution.ready, Execution.make, Execution.before, Execution.remake, Execution.handOver,
    bind_assoc]
  refine bind_congr fun early => bind_congr fun _ => bind_congr fun i => bind_congr fun b => ?_
  cases b.pending with
  | none => rfl
  | some result => simp only [bind_assoc, pure_bind]

theorem leads_selectRows (id : Nat) : Leads (HandsOver fun s => s.Vacant id) env (selectRows id) := by
  rw [selectRows_eq]
  refine Execution.leads_handOver (stable_vacant id) (fun _ _ => fun hvacant => hvacant) fun i result => ?_
  exact .bind ((intact_fire _ _ _ _).mono fun _ _ => Intact.rests) fun _ => .pure _

theorem leads_fetchAll (id : Nat) : Leads (HandsOver fun s => s.Vacant id) env (fetchAll id) := by
  refine (leads_selectRows id).back fun rows => .bind (.builder _) fun b => ?_
  dsimp only
  split
  · exact .pure _
  · exact .lift _

theorem leads_first (id : Nat) : Leads (HandsOver fun s => s.Vacant id) env (first id) := by
  refine .front (stable_vacant id) ((Keeps.bare_modifyDraft _ _).mono fun _ _ => Bare.unhooked) fun _ => ?_
  exact (leads_fetchAll id).back fun _ => .pure _

omit [env.Keeps Unhooked] in
/-- The draft is changed in front of the operation and behind it. -/
theorem leads_withProjection (hp : Stable p) (id : Nat) (projection : List Field) {operation : Act α}
    (h : Leads (HandsOver p) env operation) : Leads (HandsOver p) env (withProjection id projection operation) := by
  refine .front hp (.draft _) fun d => ?_
  refine .front hp ((Keeps.bare_modifyDraft _ _).mono fun _ _ => Bare.unhooked) fun _ => ?_
  intro s x u hexec
  obtain ⟨outcome, t, hobserved, hexec⟩ := exec_bind_eq_ok hexec
  obtain ⟨_, v, hrestore, hlift⟩ := exec_bind_eq_ok hexec
  rw [exec_observed] at hobserved
  rw [exec_lift] at hlift
  obtain ⟨rfl, rfl⟩ := Prod.mk.inj hlift
  have hop : operation.exec env s = (.ok x, t) := by
    obtain ⟨houtcome, ht⟩ := Prod.mk.inj hobserved
    exact Prod.ext (Except.ok.inj houtcome) ht
  exact (h s x t hop).andTold ((Keeps.bare_modifyDraft _ _).of_exec hrestore).rests.told

end Execute

/-! ### New builders -/

namespace Declare

theorem vacant_newQuery {fresh : Nat} (h : (newQuery id).exec env s = (.ok fresh, t)) : t.Vacant fresh := by
  obtain ⟨b, u, -, h⟩ := exec_bind_eq_ok h
  cases h
  exact ⟨_, Array.getElem?_push_size, rfl⟩

/-- A copy has no pending result. -/
theorem vacant_clone {depth copy : Nat} (h : (clone depth id).exec env s = (.ok copy, t)) : t.Vacant copy := by
  cases depth with
  | zero => cases h
  | succ depth =>
      obtain ⟨b, _, -, h⟩ := exec_bind_eq_ok h
      obtain ⟨d, _, -, h⟩ := exec_bind_eq_ok h
      obtain ⟨joins, _, -, h⟩ := exec_bind_eq_ok h
      obtain ⟨draft, _, -, h⟩ := exec_bind_eq_ok h
      cases h
      exact ⟨_, Array.getElem?_push_size, rfl⟩

/-- A builder for one table is a new one, unless the table is an absent value. -/
theorem vacant_table {v : Value} {fresh : Nat} (hv : v.isNull = false)
    (h : (table id [v]).exec env s = (.ok fresh, t)) : t.Vacant fresh := by
  unfold table at h
  rw [show Draft.clearsTables [v] = false from hv, if_neg Bool.false_ne_true] at h
  obtain ⟨c, u, hnew, h⟩ := exec_bind_eq_ok h
  obtain ⟨_, w, hset, h⟩ := exec_bind_eq_ok h
  cases h
  exact ((Keeps.bare_setTables _ _).of_exec hset).quiet.vacant (vacant_newQuery hnew)

theorem isNull_subQuery {member shortName v : Value} (h : (subQuery member shortName).exec env s = (.ok v, t)) :
    v.isNull = false := by
  unfold subQuery at h
  split at h
  · obtain ⟨q, _, -, h⟩ := exec_bind_eq_ok h
    split at h
    · cases h
      rfl
    · obtain ⟨_, _, -, h⟩ := exec_bind_eq_ok h
      obtain ⟨_, _, -, h⟩ := exec_bind_eq_ok h
      cases h
      rfl
  · cases h

end Declare

/-! ### Aggregates -/

namespace Execute

variable [env.Keeps Unhooked]

/-- The rows come from the builder itself, or from a new one if its draft shapes its rows. -/
theorem leads_expressionRows (id : Nat) (expression : Value) :
    Leads (HandsOver fun s => (s.declared id).shapesRows = false → s.Vacant id) env (expressionRows id expression) := by
  intro s rows u h hs hvacant
  obtain ⟨d, t, hdraft, h⟩ := exec_bind_eq_ok h
  obtain ⟨rfl, rfl⟩ := exec_draft_eq_ok hdraft
  have hmaking : Making (Keeps Unhooked env) := Keeps.unhooked_making
  cases hshapes : (t.declared id).shapesRows with
  | true =>
      -- the statement of the builder is put into a new one, which cannot have a pending result
      rw [if_pos hshapes] at h
      obtain ⟨_, v, hvalue, h⟩ := exec_bind_eq_ok h
      obtain ⟨wrapped, w, hsub, h⟩ := exec_bind_eq_ok h
      obtain ⟨wrapper, x, htable, h⟩ := exec_bind_eq_ok h
      have hfront : Unhooked t x := by
        have hmember := (hmaking.builderValue id).of_exec hvalue
        have hwrapped := (hmaking.subQuery _ _).of_exec hsub
        have hfresh := (Keeps.bare_table id [wrapped]).of_exec htable
        exact trans_of Unhooked (trans_of Unhooked hmember hwrapped) hfresh.unhooked
      have hrows : Leads (HandsOver fun s => s.Vacant wrapper) env (do
          let b ← Act.builder wrapper
          Act.modifyDraft wrapper (Draft.select b.lead b.overwriting.isTruthy [expression])
          selectRows wrapper) := by
        refine .front (stable_vacant _) (.builder _) fun b => ?_
        refine .front (stable_vacant _) ((Keeps.bare_modifyDraft _ _).mono fun _ _ => Bare.unhooked) fun _ => ?_
        exact leads_selectRows wrapper
      have hwrapper := Declare.vacant_table (Declare.isNull_subQuery hsub) htable
      exact (hrows x rows u h).behind hfront hwrapper hs trivial
  | false =>
      rw [if_neg (Bool.eq_false_iff.1 hshapes)] at h
      have hrows : Leads (HandsOver fun s => s.Vacant id) env
          (withProjection id [.plain expression] (selectRows id)) :=
        leads_withProjection (stable_vacant id) _ _ (leads_selectRows id)
      exact hrows t rows u h hs (hvacant hshapes)

theorem leads_aggregate (id : Nat) (function : String) (field : Value) :
    Leads (HandsOver fun s => (s.declared id).shapesRows = false → s.Vacant id) env (aggregate id function field) := by
  have hdialect : Keeps Eq env Act.dialect := fun _ => rfl
  refine .behind (.draft _) fun d => ?_
  refine Modular.joined (P := Leads (HandsOver _) env) (fun _ => ?_) fun h =>
    .behind (.lift _) fun _ => .behind (.throw _) h
  refine Modular.joined (P := Leads (HandsOver _) env) (fun _ => ?_) fun h => .behind (.throw _) h
  refine .behind (.lift _) fun operand => .behind hdialect fun dialect => .behind (.lift _) fun name => ?_
  refine (leads_expressionRows id _).back fun rows => ?_
  split
  · exact .pure _
  · exact .pure _
  · refine .bind (.lift _) fun x => ?_
    unfold Act.marked
    split
    · exact fun s => .of_course (.still rfl rfl (.of_eq rfl)) rfl rfl rfl
    · exact .pure _

theorem leads_count (id : Nat) (field : Value) :
    Leads (HandsOver fun s => (s.declared id).shapesRows = false → s.Vacant id) env (count id field) :=
  (leads_aggregate id "count" field).back fun _ => .lift _

end Execute

/-! ### Insertions -/

namespace Transaction

/-- The end of a transaction is no statement. -/
theorem rests_finish (id : Nat) (status : TransactionStatus) : Keeps Rests env (finish id status) := by
  refine keeps_finish_of (fun s => .of_course (.called s _) ?_ rfl rfl) fun s scope hopen hcall => ?_
  · cases status with
    | committed => rfl
    | rolledBack => rfl
  · exact .of_course (.ended status hopen hcall) rfl rfl rfl

theorem rests_conclude (id scope : Nat) : Keeps Rests env (conclude id scope) :=
  keeps_conclude_of (rests_finish id .committed) fun _ hopen hout => .of_course (.assumed hopen hout) rfl rfl rfl

theorem rests_begin : Keeps Rests env (Execute.reported Driver.begin) := by
  intro s
  rw [Execute.reported_snd]
  exact .of_course (.called s .begin) rfl rfl rfl

/-- Around its script a transaction hands no statement over. -/
theorem told_run {script : Nat → Act α} (hscript : ∀ builder, Leads Told env (script builder)) :
    Leads Told env (run id script) := by
  rw [run_eq]
  refine .bind (Keeps.told fun s => .of_course (.opened s) rfl rfl rfl) fun scope => ?_
  refine .bind (Keeps.told ((Keeps.bare_builderFor _ _).mono fun _ _ => Bare.rests)) fun builder => ?_
  have hbegun : ∀ _ : Unit, Leads Told env (begun scope builder script) := by
    intro _ s y u h
    rw [exec_begun] at h
    rcases hr : (script builder).exec env s with ⟨outcome, t⟩
    rw [hr] at h
    cases outcome with
    | error fault =>
        obtain ⟨_, _, -, h⟩ := exec_bind_eq_ok h
        cases h
    | ok answer =>
        have hend : Keeps Rests env (do
            conclude builder scope
            pure ((← Act.scopeStatus scope).getD .committed, answer)) :=
          .bind (rests_conclude _ _) fun _ => .bind (.bind .get fun _ => .pure _) fun _ => .pure _
        exact trans_of Told (hscript builder s answer t hr) (hend.of_exec h).told
  refine .behind .get fun v => ?_
  dsimp only
  split
  · exact hbegun ()
  · exact .bind rests_begin.told hbegun

theorem told_batch {rows : Nat → Act (List Value)} (hrows : ∀ builder, Leads Told env (rows builder)) :
    Leads Told env (batch id rows) := by
  refine .behind .get fun s => ?_
  split
  · exact .bind (hrows _) fun _ => Keeps.told (.pure _)
  · exact .bind (told_run hrows) fun _ => Keeps.told (.pure _)

/-- A row is handed over. -/
theorem leads_insert_row [env.Keeps Unhooked] {verb : InsertVerb} {v : Value} (id : Nat) (h : rowsOf verb v = none) :
    Leads (HandsOver fun _ => True) env (insert verb id v) := by
  unfold rowsOf at h
  unfold insert
  split
  · rename_i entries
    have hrow : Leads (HandsOver fun _ => True) env ((Execution.insert verb entries).call.perform id) :=
      Execution.leads_call stable_true Execution.noConfusion
    rw [Execution.call, BuilderCall.perform, insert] at hrow
    exact hrow
  · cases h
  · cases h
  · cases h
  · cases h
  · cases h
  · intro s x t hexec
    cases hexec

mutual

/-- The rows of a batch are inserted one after the other, to any depth of sequences. -/
theorem told_insert [env.Keeps Unhooked] (verb : InsertVerb) (id : Nat) (v : Value) :
    Leads Told env (insert verb id v) := by
  unfold insert
  split
  · rename_i entries
    have hrow : Leads (HandsOver fun _ => True) env (insert verb id (.map entries)) := leads_insert_row id rfl
    rw [insert] at hrow
    exact Leads.told hrow
  · exact told_batch fun _ => told_insertAll _ _ _
  · exact told_batch fun _ => told_insertAll _ _ _
  · exact told_batch fun _ => told_insertAll _ _ _
  · refine told_batch fun _ => ?_
    split
    · exact Keeps.told (.pure _)
    · exact Keeps.told (.throw _)
  · refine told_batch fun _ => ?_
    split
    · exact Keeps.told (.pure _)
    · exact Keeps.told (.throw _)
  · exact Keeps.told (.throw _)

theorem told_insertAll [env.Keeps Unhooked] (verb : InsertVerb) (id : Nat) (vs : List Value) :
    Leads Told env (insertAll verb id vs) := by
  unfold insertAll
  split
  · exact Keeps.told (.pure _)
  · exact .bind (told_insert _ _ _) fun _ => .bind (told_insertAll _ _ _) fun _ => Keeps.told (.pure _)

end

/-- The rows are looked for on a copy, which has no pending result. -/
theorem leads_updateOrInsert [env.Keeps Unhooked] (id : Nat) (data : Value) :
    Leads (HandsOver fun _ => True) env (updateOrInsert id data) := by
  intro s y u h
  obtain ⟨surroundings, _, hread, h⟩ := exec_bind_eq_ok h
  cases hread
  obtain ⟨probe, t, hclone, h⟩ := exec_bind_eq_ok h
  obtain ⟨found, v, hfirst, h⟩ := exec_bind_eq_ok h
  have hcopied : Unhooked s t := ((Keeps.bare_clone _ _).of_exec hclone).unhooked
  have hprobed : HandsOver (fun _ => True) s v :=
    (Execute.leads_first probe t found v hfirst).behind hcopied (Declare.vacant_clone hclone)
  refine hprobed.andTold ?_
  split at h
  · exact told_insert _ _ _ _ _ _ h
  · exact Execution.told_call (x := .update data) (fun hx => nomatch hx) _ _ _ h

end Transaction

end SqlBuilder
