import SqlBuilder.Proofs.Transaction.Course

/-!
The execution of a statement in phases. The statement is made and noted, the hooks in front of it run, and a selection
is then made and noted once more. What has come of that is handed to the driver. Only then the hooks behind it run and
the call gives its answer. So the calls of the driver are those of the first hooks, that of the statement, and those
of the rest.
-/

namespace SqlBuilder

open Act Session

/-- What a builder executes, with hooks around it. -/
inductive Execution where
  | select
  /-- One row. -/
  | insert (verb : InsertVerb) (entries : List (Value × Value))
  | update (data : Value)
  | delete (columns : Value)
  /-- SQL that is given. -/
  | query (sql values : Value)

namespace Execution

open Execute

def call : Execution → BuilderCall
  | select => .fetchAll
  | insert verb entries => .insert verb (.map entries)
  | update data => .update data
  | delete columns => .delete columns
  | query sql values => .query sql values

/-- What is compiled, unless the SQL is given. -/
def request? : Execution → Option StatementRequest
  | select => some .select
  | insert verb entries => some (.insert verb (.map entries))
  | update data => some (.update data)
  | delete columns => some (.delete columns)
  | query _ _ => none

def before : Execution → EventKind
  | select => .beforeSelect
  | insert _ _ => .beforeInsert
  | update _ => .beforeUpdate
  | delete _ => .beforeDelete
  | query _ _ => .beforeQuery

/-- The statement is made and noted as the last one. -/
def make (id : Nat) : Execution → Act Issued
  | select => prepare id .select
  | insert verb entries => prepare id (.insert verb (.map entries))
  | update data => prepare id (.update data)
  | delete columns => prepare id (.delete columns)
  | query sql values => do
    let values ← Act.lift (itemsOf values)
    let i : Issued := ⟨sql, values, (← get).driver.hasEscapes⟩
    remember i
    pure i

/-- Behind the hooks a selection is made and noted once more. -/
def remake (id : Nat) (early : Issued) : Execution → Act Issued
  | select => prepare id .select
  | _ => pure early

/-- The statement with everything that happens in front of it. -/
def ready (id : Nat) (x : Execution) : Act Issued := do
  let early ← x.make id
  let _ ← fire id x.before (some early) .null
  x.remake id early

/-- The statement is handed to the driver, but for a selection whose result is pending. -/
def handOver (id : Nat) (i : Issued) : Execution → Act QueryResult
  | select => do
    match (← Act.builder id).pending with
    | none => run id i
    | some result => do
      Act.modifyBuilder id fun b => { b with pending := none }
      pure result
  | _ => run id i

/-- The rows, or the objects that the factory makes of them. -/
def objectsOf (factory : Value) (rows : List Row) : Act (List Value) :=
  if factory.isNull then pure (rows.map Value.map) else Act.lift (rows.mapM (objectOf factory))

/-- What happens behind the statement. -/
def conclude (id : Nat) (i : Issued) (result : QueryResult) : Execution → Act Value
  | select => do
    let _ ← fire id .afterSelect (some i) (.map [timing])
    let b ← Act.builder id
    pure (.list (← objectsOf b.factory result.rows))
  | insert _ _ => do
    let insertId ← if result.affectedRows.same (.int 1) then Act.driver fun d => d.lastInsertId else pure .null
    let _ ← fire id .afterInsert (some i) (.map [(.text "insert_id", insertId), timing])
    pure insertId
  | update _ => do
    let _ ← fire id .afterUpdate (some i) (.map [timing])
    pure result.toValue
  | delete _ => do
    let _ ← fire id .afterDelete (some i) (.map [timing])
    pure result.toValue
  | query _ _ => do
    let _ ← fire id .afterQuery (some i) (.map [timing])
    Act.modifyBuilder id fun b => { b with pending := some result }
    Act.builderValue id

/-- The phases make up what the builder does when it is called. -/
theorem perform_call (id : Nat) (x : Execution) : x.call.perform id = (do
    let i ← x.ready id
    let result ← x.handOver id i
    x.conclude id i result) := by
  cases x with
  | select =>
      have hfetch : fetchAll id = (do
          let rows ← selectRows id
          let b ← Act.builder id
          objectsOf b.factory rows) := rfl
      simp only [call, BuilderCall.perform, hfetch, selectRows, ready, make, before, remake, handOver, conclude,
        bind_assoc, pure_bind]
      refine bind_congr fun early => bind_congr fun _ => bind_congr fun i => bind_congr fun b => ?_
      cases b.pending with
      | none => simp only [bind_assoc, pure_bind]
      | some result => simp only [bind_assoc, pure_bind]
  | insert verb entries =>
      simp [call, BuilderCall.perform, Transaction.insert, insertRow, ready, make, before, remake, handOver, conclude]
  | update data =>
      simp [call, BuilderCall.perform, Execute.update, around, ready, make, before, remake, handOver, conclude]
  | delete columns =>
      simp [call, BuilderCall.perform, Execute.delete, around, ready, make, before, remake, handOver, conclude]
  | query sql values =>
      simp [call, BuilderCall.perform, BuilderCall.declaring, Execute.query, around, ready, make, before, remake,
        handOver, conclude]

/-! ### Handing over -/

variable {env : Surroundings} {id : Nat} {x : Execution} {i : Issued} {s t : Session}

/-- The execution comes to hand the statement to the driver in the state `t`: the builder may execute there, and no
pending result takes the place of a selection. -/
structure Reaches (env : Surroundings) (id : Nat) (x : Execution) (s : Session) (i : Issued) (t : Session) :
    Prop where
  ready : (x.ready id).exec env s = (.ok i, t)
  isOpen : (requireOpen id).exec env t = (.ok (), t)
  idle : x = .select → ∃ b, t.builders[id]? = some b ∧ b.pending = none

/-- A selection without a pending result goes to the driver. -/
theorem exec_handOver_none {b : Builder} (hb : s.builders[id]? = some b) (hnone : b.pending = none) :
    (select.handOver id i).exec env s = (run id i).exec env s := by
  unfold handOver
  rw [exec_bind_ok (exec_builder_of_some hb), hnone]

/-- The statement is handed over there, and no pending result takes its place. -/
theorem Reaches.exec_handOver (h : x.Reaches env id s i t) :
    (x.handOver id i).exec env t = (run id i).exec env t := by
  cases x with
  | select =>
      obtain ⟨b, hb, hpending⟩ := h.idle rfl
      exact exec_handOver_none hb hpending
  | _ => rfl

/-- Behind the hooks the call hands its statement over and comes to its end. -/
theorem Reaches.exec_call (h : x.Reaches env id s i t) :
    (x.call.perform id).exec env s = (run id i >>= fun result => x.conclude id i result).exec env t := by
  rw [perform_call, exec_bind_ok h.ready, exec_bind, h.exec_handOver, ← exec_bind]

/-- The driver gets the statement with its values. -/
theorem exec_run (hopen : (requireOpen id).exec env t = (.ok (), t)) (i : Issued) :
    ((run id i).exec env t).2 = t.called (.execute i.sql i.bindings) ∧
      ∀ fault, ((DriverCall.execute i.sql i.bindings).on t.driver).1 = .error fault →
        ((run id i).exec env t).1 = .error ((t.called (.execute i.sql i.bindings)).raised fault) := by
  have hitems : (Act.lift (itemsOf (.tuple i.bindings))).exec env t = (.ok i.bindings, t) := exec_lift _
  unfold run statement
  rw [exec_bind_ok hopen, exec_bind_ok hitems, exec_bind, exec_reported]
  dsimp only [DriverCall.on, DriverCall.silent]
  cases (t.driver.execute i.sql i.bindings).1 with
  | error fault => exact ⟨rfl, fun other h => by cases h; rfl⟩
  | ok result =>
      refine ⟨?_, fun other h => by cases h⟩
      have hcheck : Keeps Eq env (do
          Act.check i.sql.written
          pure result) := .bind (.check _) fun _ => .pure _
      exact (hcheck _).symm

/-- A statement whose execution succeeds has been handed to the driver. -/
theorem run_eq_ok {result : QueryResult} (h : (run id i).exec env s = (.ok result, t)) :
    (requireOpen id).exec env s = (.ok (), s) ∧ t = s.called (.execute i.sql i.bindings) := by
  have hopen : (requireOpen id).exec env s = (.ok (), s) := by
    obtain ⟨_, u, hopen, -⟩ := exec_bind_eq_ok h
    obtain ⟨fault, hfails⟩ | ⟨b, -, hpasses, -⟩ := requireOpen_cases env id s
    · rw [hfails] at hopen
      cases hopen
    · exact hpasses
  refine ⟨hopen, ?_⟩
  rw [← (exec_run hopen i).1, h]

/-! ### The statement -/

/-- What is prepared has been compiled, and is noted as the last statement. -/
theorem exec_prepare_eq_ok {request : StatementRequest} (h : (prepare id request).exec env s = (.ok i, t)) :
    t.lastStatement = some i ∧
      ∃ q u, (compile id request).exec env s = (.ok q, u) ∧ i = q.issued u.driver.hasEscapes := by
  obtain ⟨q, u, hq, h⟩ := exec_bind_eq_ok h
  cases h
  exact ⟨rfl, q, u, hq, rfl⟩

/-- Where a statement is made, it is noted as the last one. -/
theorem lastStatement_of_make (h : (x.make id).exec env s = (.ok i, t)) : t.lastStatement = some i := by
  cases x with
  | query sql values =>
      obtain ⟨items, u, hu, h⟩ := exec_bind_eq_ok h
      cases h
      rfl
  | _ => exact (exec_prepare_eq_ok h).1

end Execution

/-! ### What an execution is prepared with -/

namespace Act.Making

open Execution

variable {P : ∀ {α : Type}, Act α → Prop} (h : Making P) (hget : P (MonadState.get : Act Session))

include h hget

theorem make (id : Nat) (x : Execution) : P (x.make id) := by
  cases x with
  | query sql values =>
      exact h.bind (h.lift _) fun _ => h.bind hget fun _ => h.bind (h.remember _) fun _ => h.pure _
  | _ => exact h.prepare _ _

/-- All that happens in front of a statement belongs to its preparation. -/
theorem ready (id : Nat) (x : Execution) : P (x.ready id) := by
  refine h.bind (h.make hget id x) fun early => h.bind (h.fire _ _ _ _) fun _ => ?_
  cases x with
  | select => exact h.prepare _ _
  | _ => exact h.pure _

end Act.Making

namespace Execution

open Execute

variable {env : Surroundings} {id : Nat} {x : Execution} {i : Issued} {s t : Session}

/-! ### The course of an execution -/

theorem course_ready [env.Keeps (Courses fun _ => True)] (id : Nat) (x : Execution) :
    Keeps (Courses fun _ => True) env (x.ready id) := Keeps.working.toMaking.ready .get id x

theorem course_conclude [env.Keeps (Courses fun _ => True)] (id : Nat) (x : Execution) (i : Issued)
    (result : QueryResult) : Keeps (Courses fun _ => True) env (x.conclude id i result) := by
  have hfire : ∀ event arguments, Keeps (Courses fun _ => True) env (fire id event (some i) arguments) :=
    fun _ _ => .blind (blind_fire _ _ _ _)
  cases x with
  | select =>
      refine .bind (hfire _ _) fun _ => .bind (.builder _) fun b => .bind ?_ fun _ => .pure _
      unfold objectsOf
      split
      · exact .pure _
      · exact .lift _
  | insert verb entries =>
      dsimp only [conclude]
      split
      · exact .bind keeps_askInsertId fun _ => .bind (hfire _ _) fun _ => .pure _
      · exact .bind (.pure _) fun _ => .bind (hfire _ _) fun _ => .pure _
  | update data => exact .bind (hfire _ _) fun _ => .pure _
  | delete columns => exact .bind (hfire _ _) fun _ => .pure _
  | query sql values =>
      refine .bind (hfire _ _) fun _ => .bind (fun s => ?_) fun _ => .bind (.builder _) fun _ => .pure _
      exact .of_still (.still rfl rfl (.modifyBuilder s id fun _ => rfl))

/-- What follows the statement goes on from where the driver has got it, or is left out if the driver has failed. -/
theorem exists_course_of_run {α : Type} [env.Keeps (Courses fun _ => True)]
    (hopen : (requireOpen id).exec env t = (.ok (), t)) {k : QueryResult → Act α}
    (hk : ∀ result, Keeps (Courses fun _ => True) env (k result)) :
    ∃ ms, Course (t.called (.execute i.sql i.bindings)) ms ((run id i >>= k).exec env t).2 := by
  obtain ⟨hcalled, -⟩ := exec_run hopen i
  rw [exec_bind]
  rcases hr : (run id i).exec env t with ⟨outcome, u⟩
  rw [hr] at hcalled
  subst hcalled
  cases outcome with
  | error fault => exact ⟨[], .refl _⟩
  | ok result =>
      obtain ⟨ms, -, hback⟩ := hk result (t.called (.execute i.sql i.bindings))
      exact ⟨ms, hback⟩

/-- The calls of the driver in front of the statement, the statement, and the calls behind it. -/
theorem Reaches.courses [env.Keeps (Courses fun _ => True)] (h : x.Reaches env id s i t) :
    ∃ ms ms', Course s ms t ∧
      Course (t.called (.execute i.sql i.bindings)) ms' ((x.call.perform id).exec env s).2 := by
  obtain ⟨ms, -, hfront⟩ := (course_ready id x).of_exec h.ready
  obtain ⟨ms', hback⟩ := exists_course_of_run h.isOpen fun result => course_conclude id x i result
  rw [h.exec_call]
  exact ⟨ms, ms', hfront, hback⟩

/-- A failure of the driver ends the call. -/
theorem Reaches.exec_fails (h : x.Reaches env id s i t) {fault : Fault}
    (hfails : ((DriverCall.execute i.sql i.bindings).on t.driver).1 = .error fault) :
    (x.call.perform id).exec env s =
      (.error ((t.called (.execute i.sql i.bindings)).raised fault), t.called (.execute i.sql i.bindings)) := by
  obtain ⟨hcalled, hraised⟩ := exec_run h.isOpen i
  rw [h.exec_call]
  exact exec_bind_error (Prod.ext (hraised fault hfails) hcalled)

end Execution

end SqlBuilder
