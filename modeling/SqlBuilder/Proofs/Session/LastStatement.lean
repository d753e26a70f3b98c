import SqlBuilder.Proofs.Session.Members
import SqlBuilder.Proofs.Session.Noting

/-!
The last statement that a connection tells of. Without hooks it is the one that its builders have handed to the driver
last, at each point of a sequence of operations that succeed, unless one of them has fetched a result that was pending.
Such a fetch notes what its builder stands for but hands nothing over.
-/

namespace SqlBuilder

open Act Session

variable {env : Surroundings} {s t u : Session} {id : Nat}

/-! ### Calls -/

instance : Lax Quiet := ⟨fun _ _ h => h⟩

namespace BuilderCall

/-- The call executes what the builder stands for. A statement that goes to the driver as it is has no part in what is
noted. -/
def IsOperation (c : BuilderCall) : Prop := c.purpose = .execute ∧ ∀ sql values, c ≠ .statement sql values

/-- A pending result of the builder, whose draft is given, would take the place of the execution. -/
def fetches (d : Draft) : BuilderCall → Bool
  | fetchAll | first | find _ _ | findAll _ _ => true
  | count _ | aggregate _ _ => !d.shapesRows
  | _ => false

variable [env.Keeps Unhooked]

theorem leads_findAll (id : Nat) (field v : Value) :
    Leads (HandsOver fun s => s.Vacant id) env ((findAll field v).perform id) := by
  refine .front (stable_vacant id) (Keeps.unhooked_condition _ _ _ _ _) fun _ => ?_
  exact (Execute.leads_fetchAll id).back fun _ => .pure _

theorem leads_find (id : Nat) (v field : Value) :
    Leads (HandsOver fun s => s.Vacant id) env ((find v field).perform id) :=
  .front (stable_vacant id) (Keeps.unhooked_condition _ _ _ _ _) fun _ => Execute.leads_first id

/-- An operation that succeeds hands a statement over, but for a batch, which may have no rows, and notes the one that
it hands over last. -/
theorem handsOver_perform {c : BuilderCall} (hc : c.IsOperation) (hbatch : c.isBatch = false)
    (hvacant : c.fetches (s.declared id) = true → s.Vacant id) {v : Value}
    (h : (c.perform id).exec env s = (.ok v, t)) : HandsOver (fun _ => True) s t := by
  have hcall : ∀ x : Execution, x ≠ .select → Leads (HandsOver fun _ => True) env (x.call.perform id) :=
    fun x hx => Execution.leads_call stable_true fun hselect => absurd hselect hx
  obtain ⟨hpurpose, hstatement⟩ := hc
  cases c with
  | statement sql values => exact absurd rfl (hstatement sql values)
  | fetchAll =>
      have hrows : Leads (HandsOver fun s => s.Vacant id) env (fetchAll.perform id) :=
        (Execute.leads_fetchAll id).back fun _ => .pure _
      exact (hrows s v t h).always (hvacant rfl)
  | first => exact (Execute.leads_first id s v t h).always (hvacant rfl)
  | find key field => exact (leads_find id key field s v t h).always (hvacant rfl)
  | findAll field key => exact (leads_findAll id field key s v t h).always (hvacant rfl)
  | count field => exact (Execute.leads_count id field s v t h).always fun hplain => hvacant (congrArg not hplain)
  | aggregate function field =>
      exact (Execute.leads_aggregate id function.name field s v t h).always fun hplain =>
        hvacant (congrArg not hplain)
  | insert verb data =>
      have hrow : Transaction.rowsOf verb data = none := Option.not_isSome_iff_eq_none.mp (Bool.eq_false_iff.mp hbatch)
      exact Transaction.leads_insert_row id hrow s v t h
  | updateOrInsert data => exact Transaction.leads_updateOrInsert id data s v t h
  | query sql values => exact hcall (.query sql values) Execution.noConfusion s v t h
  | update data => exact hcall (.update data) Execution.noConfusion s v t h
  | delete columns => exact hcall (.delete columns) Execution.noConfusion s v t h
  | _ => cases hpurpose

/-- An operation that succeeds notes the statement that it hands over last, if it hands one over. -/
theorem told_perform {c : BuilderCall} (hc : c.IsOperation)
    (hvacant : c.fetches (s.declared id) = true → s.Vacant id) {v : Value}
    (h : (c.perform id).exec env s = (.ok v, t)) : Told s t := by
  cases hbatch : c.isBatch with
  | false => exact (handsOver_perform hc hbatch hvacant h).told trivial
  | true =>
      cases c with
      | insert verb data => exact Transaction.told_insert verb id data s v t h
      | _ => cases hbatch

end BuilderCall

namespace Execution

open Execute

/-- What is made ready does not reach the driver, unless a script does. -/
theorem quiet_ready [env.Keeps Quiet] (id : Nat) (x : Execution) : Keeps Quiet env (x.ready id) :=
  Keeps.working.toMaking.ready .get id x

/-- A fetch of a pending result hands nothing over, but what its builder stands for is noted. -/
theorem fetch_pending [env.Keeps Unhooked] {i : Issued} {v : Value} (hs : s.Hookless)
    (hready : (select.ready id).exec env s = (.ok i, t)) (hpending : ¬ t.Vacant id)
    (h : (BuilderCall.fetchAll.perform id).exec env s = (.ok v, u)) :
    (∃ ms, Course t ms u ∧ Move.handed ms = []) ∧ u.lastStatement = some i := by
  have hfree : t.Hookless := ((unhooked_ready id select).of_exec hready).hookless hs
  have hlast := lastStatement_of_ready_hookless hs hready
  rw [show BuilderCall.fetchAll.perform id = _ from perform_call id select, exec_bind_ok hready] at h
  obtain ⟨result, w, hhand, hconclude⟩ := exec_bind_eq_ok h
  obtain ⟨b, x, hbuilder, htake⟩ := exec_bind_eq_ok hhand
  obtain ⟨hb, rfl⟩ := exec_builder_eq_ok hbuilder
  have hrests : Rests x w := by
    cases hresult : b.pending with
    | none => exact absurd ⟨b, hb, hresult⟩ hpending
    | some found =>
        rw [hresult] at htake
        cases htake
        exact (bare_modifyBuilder x id (f := fun b => { b with pending := none }) (fun _ => rfl) fun _ _ => rfl).rests
  obtain ⟨-, hcourse, hkept⟩ := trans_of Rests hrests ((rests_conclude id i result select).of_exec hconclude) hfree
  exact ⟨hcourse, hkept.trans hlast⟩

end Execution

/-! ### Sequences of operations -/

namespace Session

/-- Operations of any builders, each of which succeeds, with anything in between that hands nothing over and notes
nothing. No operation comes to a builder with a result that it would take for its own. -/
inductive Operates (env : Surroundings) (s : Session) : Session → Prop where
  | start : Operates env s s
  | between {t u : Session} (h : Operates env s t) (hrests : Rests t u) : Operates env s u
  | operation {t u : Session} (h : Operates env s t) (id : Nat) {c : BuilderCall} (hc : c.IsOperation)
      (hscripts : Confined Unhooked env (c.perform id) t)
      (hvacant : c.fetches (t.declared id) = true → t.Vacant id) {v : Value}
      (hcall : (c.perform id).exec env t = (.ok v, u)) : Operates env s u

/-- The connection tells of the statement that is noted last. -/
theorem exec_lastQuery {sql : Value} {values : List Value} (h : s.lastNoted = some (sql, values)) :
    ∃ hasEscapes, ConnectionCall.lastQuery.perform.exec env s = (.ok (.statement sql values hasEscapes), s) := by
  obtain ⟨i, hlast, heq⟩ := Option.map_eq_some_iff.1 h
  obtain ⟨rfl, rfl⟩ := Prod.mk.inj heq
  have htold : ConnectionCall.lastQuery.perform.exec env s =
      (.ok ((s.lastStatement.map Issued.toValue).getD .null), s) := rfl
  rw [htold, hlast]
  exact ⟨i.hasEscapes, rfl⟩

/-- At each point of a sequence of operations without hooks, the statement that the connection tells of is the one that
was handed to the driver last, with its values. Each operation hands one over, but for a batch, which may have no rows.
A fetch of a pending result alone would hand nothing over and note another one. -/
theorem lastNoted_of_operates (hhooks : s.Hookless) (h : Operates env s t) :
    t.Hookless ∧
      (∃ ms, Course s ms t ∧ t.lastNoted = (Move.handed ms).getLast?.or s.lastNoted ∧
        ∀ sql values, (Move.handed ms).getLast? = some (sql, values) → ∃ hasEscapes,
          ConnectionCall.lastQuery.perform.exec env t = (.ok (.statement sql values hasEscapes), t)) ∧
      (∀ id (c : BuilderCall) v u, c.IsOperation → c.isBatch = false → Confined Unhooked env (c.perform id) t →
        (c.fetches (t.declared id) = true → t.Vacant id) → (c.perform id).exec env t = (.ok v, u) →
        ∃ ms last, Course t ms u ∧ (Move.handed ms).getLast? = some last ∧ u.lastNoted = some last) ∧
      ∀ id i v u w, Confined Unhooked env (Execution.select.ready id) t →
        Confined Unhooked env (BuilderCall.fetchAll.perform id) t →
        (Execution.select.ready id).exec env t = (.ok i, v) → ¬ v.Vacant id →
        (BuilderCall.fetchAll.perform id).exec env t = (.ok w, u) →
        (∃ ms, Course v ms u ∧ Move.handed ms = []) ∧ u.lastNoted = some (i.sql, i.bindings) := by
  have htold : Told s t := by
    -- what each operation notes is the last statement of its own, or of those before it if it hands nothing over
    induction h with
    | start => exact refl_of Told s
    | between h hrests ih => exact trans_of Told ih hrests.told
    | operation h id hc hscripts hvacant hcall ih =>
        rw [← hscripts] at hcall
        exact trans_of Told ih (BuilderCall.told_perform hc hvacant hcall)
  obtain ⟨ht, ms, hcourse, hnoted⟩ := htold hhooks
  refine ⟨ht, ⟨ms, hcourse, hnoted, fun sql values hlast => exec_lastQuery ?_⟩, ?_, ?_⟩
  · rw [hnoted, hlast, Option.some_or]
  · intro id c v u hc hbatch hscripts hvacant hcall
    rw [← hscripts] at hcall
    exact (BuilderCall.handsOver_perform hc hbatch hvacant hcall ht trivial).2
  · intro id i v u w hreadies hfetches hready hpending hcall
    rw [← hreadies] at hready
    rw [← hfetches] at hcall
    obtain ⟨hrest, hlast⟩ := Execution.fetch_pending ht hready hpending hcall
    exact ⟨hrest, congrArg (Option.map fun i : Issued => (i.sql, i.bindings)) hlast⟩

/-- Two builders on a connection without hooks. -/
def twoTables : Session := { Execution.watched .beforeDelete [] [] with hooks := [] }

def addingTwo : BuilderCall :=
  .insert .insert (.list [.map [(.text "name", .text "Ada")], .map [(.text "name", .text "Ben")]])

def selectingOne : BuilderCall := .query (.text "SELECT 1") (.list [])

def withPeople : Session := ((addingTwo.perform 0).exec (.scriptless 2) twoTables).2

def withRows : Session := ((selectingOne.perform 1).exec (.scriptless 2) withPeople).2

def notedText (s : Session) : Option String := s.lastNoted.bind fun noted => noted.1.text?

/-- One builder inserts a batch and the other one executes a statement, which is noted. The fetch of its rows notes
another one. -/
theorem lastNoted_of_operates_query : ∃ (u : Session) (w : Value), Operates (.scriptless 2) twoTables withRows ∧
    (∃ ms, Course twoTables ms withRows ∧ withRows.lastNoted = (Move.handed ms).getLast?) ∧
    withRows.notedText = some "SELECT 1" ∧
    (BuilderCall.fetchAll.perform 1).exec (.scriptless 2) withRows = (.ok w, u) ∧
    u.notedText = some "SELECT * FROM `journal`" := by
  obtain ⟨hinserts, hqueries, hnoted, hmakes, hfull, hfetches⟩ :
      ((addingTwo.perform 0).exec (.scriptless 2) twoTables).1.toOption.map (fun _ => ()) = some () ∧
      ((selectingOne.perform 1).exec (.scriptless 2) withPeople).1.toOption.map (fun _ => ()) = some () ∧
      withRows.notedText = some "SELECT 1" ∧
      ((Execution.select.ready 1).exec (.scriptless 2) withRows).1.toOption.map (fun i => i.sql.text?) =
        some (some "SELECT * FROM `journal`") ∧
      ((Execution.select.ready 1).exec (.scriptless 2) withRows).2.builders[1]?.map (fun b => b.pending.isSome) =
        some true ∧
      ((BuilderCall.fetchAll.perform 1).exec (.scriptless 2) withRows).1.toOption.map (fun _ => ()) = some () := by
    decide +kernel
  obtain ⟨v, hinsert, -⟩ := exec_eq_ok _ _ _ _ hinserts
  obtain ⟨w, hquery, -⟩ := exec_eq_ok _ _ _ _ hqueries
  obtain ⟨i, hready, htext⟩ := exec_eq_ok _ _ _ _ hmakes
  obtain ⟨rows, hcall, -⟩ := exec_eq_ok _ _ _ _ hfetches
  have hbatch : Operates (.scriptless 2) twoTables withPeople :=
    .operation .start 0 ⟨rfl, fun _ _ => BuilderCall.noConfusion⟩ (.of_keeps _ _) (by rintro ⟨⟩) hinsert
  have hrun : Operates (.scriptless 2) twoTables withRows :=
    .operation hbatch 1 ⟨rfl, fun _ _ => BuilderCall.noConfusion⟩ (.of_keeps _ _) (by rintro ⟨⟩) hquery
  obtain ⟨-, ⟨ms, hcourse, hlast, -⟩, -, hfetch⟩ := lastNoted_of_operates (hookless_of_nil rfl) hrun
  have hpending : ¬ ((Execution.select.ready 1).exec (.scriptless 2) withRows).2.Vacant 1 := by
    rintro ⟨b, hb, hnone⟩
    rw [hb, Option.map_some, hnone] at hfull
    cases hfull
  obtain ⟨-, hother⟩ := hfetch 1 i _ _ rows (.of_keeps _ _) (.of_keeps _ _) hready hpending hcall
  refine ⟨_, rows, hrun, ⟨ms, hcourse, ?_⟩, hnoted, hcall, ?_⟩
  · rw [hlast, show twoTables.lastNoted = none from rfl, Option.or_none]
  · rw [notedText, hother]
    exact htext

/-- The fetch of what a statement has given leaves another statement noted than the only one that has reached the
driver. -/
theorem not_lastNoted_of_pending : ∃ (t u : Session) (v w : Value) (ms : List Move), twoTables.Hookless ∧
    (selectingOne.perform 1).exec (.scriptless 2) twoTables = (.ok v, t) ∧
    (BuilderCall.fetchAll.perform 1).exec (.scriptless 2) t = (.ok w, u) ∧
    u.journal.map Execution.summary = [some "SELECT 1"] ∧
    Course twoTables ms u ∧ (Move.handed ms).getLast?.bind (fun last => last.1.text?) = some "SELECT 1" ∧
    u.notedText = some "SELECT * FROM `journal`" := by
  let t := ((selectingOne.perform 1).exec (.scriptless 2) twoTables).2
  let u := ((BuilderCall.fetchAll.perform 1).exec (.scriptless 2) t).2
  obtain ⟨hqueries, hnoted, hmakes, hfull, hfetches, hjournal, htext⟩ :
      ((selectingOne.perform 1).exec (.scriptless 2) twoTables).1.toOption.map (fun _ => ()) = some () ∧
      t.notedText = some "SELECT 1" ∧
      ((Execution.select.ready 1).exec (.scriptless 2) t).1.toOption.map (fun _ => ()) = some () ∧
      ((Execution.select.ready 1).exec (.scriptless 2) t).2.builders[1]?.map (fun b => b.pending.isSome) =
        some true ∧
      ((BuilderCall.fetchAll.perform 1).exec (.scriptless 2) t).1.toOption.map (fun _ => ()) = some () ∧
      u.journal.map Execution.summary = [some "SELECT 1"] ∧ u.notedText = some "SELECT * FROM `journal`" := by
    decide +kernel
  obtain ⟨v, hquery, -⟩ := exec_eq_ok _ _ _ _ hqueries
  obtain ⟨i, hready, -⟩ := exec_eq_ok _ _ _ _ hmakes
  obtain ⟨w, hfetch, -⟩ := exec_eq_ok _ _ _ _ hfetches
  have hpending : ¬ ((Execution.select.ready 1).exec (.scriptless 2) t).2.Vacant 1 := by
    rintro ⟨b, hb, hnone⟩
    rw [hb, Option.map_some, hnone] at hfull
    cases hfull
  have hstart : twoTables.Hookless := hookless_of_nil rfl
  obtain ⟨ht, ms, hcourse, hlast⟩ := Execution.told_call (x := .query _ _) (fun hx => nomatch hx) _ _ _ hquery hstart
  obtain ⟨⟨ms', hcourse', hms'⟩, -⟩ := Execution.fetch_pending ht hready hpending hfetch
  have hmade : Course t [] ((Execution.select.ready 1).exec (.scriptless 2) t).2 :=
    .of_quiet (Execution.quiet_ready 1 .select t)
  refine ⟨t, u, v, w, _, hstart, hquery, hfetch, hjournal, (hcourse.append hmade).append hcourse', ?_, htext⟩
  rw [Move.handed_append, hms', List.append_nil, List.append_nil]
  rw [show twoTables.lastNoted = none from rfl, Option.or_none] at hlast
  rw [← hlast]
  exact hnoted

end Session

end SqlBuilder
