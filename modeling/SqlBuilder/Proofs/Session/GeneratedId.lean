import SqlBuilder.Proofs.Driver.Identity
import SqlBuilder.Proofs.Driver.SqliteRun
import SqlBuilder.Proofs.Session.Lifecycle
import SqlBuilder.Proofs.Statement.Insertion

/-!
The identifier that the insertion of one row gives, after any history of a connection. It belongs to the statement of
the insertion: its cursor tells it, or for the engines whose cursors do not it is read back behind the statement. Where
the cursor of another engine tells none, the driver gives what it has come to know before.
-/

namespace SqlBuilder

open Act Session

/-- What the answer to the next statement tells as the identifier of a new row. -/
def Driver.rowId : Driver → Value
  | scripted _ => .null
  | sqlite d => d.reply.lastRowId
  | cursor d => d.reply.lastRowId

/-- The identifier that is read back right behind the next statement, for the engines whose cursors tell none. -/
def Driver.readBack? : Driver → Option (Except Fault Value)
  | cursor d => (CursorDriver.identityQuery? d.engine).map fun _ =>
    d.advance.lookUpOutcome >>= CursorDriver.identifierOf
  | _ => none

/-- The identifier that a driver gives behind a statement that has added one row. -/
theorem Driver.lastInsertId_of_execute {d : Driver} (hd : d.isScripted = false) {sql : Value} {values : List Value}
    {result : QueryResult} {id : Value} (hexecute : (d.execute sql values).1 = .ok result)
    (hone : result.affectedRows.same (.int 1) = true) (hadds : CursorDriver.addsRows sql = .ok true)
    (hask : ((DriverCall.execute sql values).after d).lastInsertId.1 = .ok id) :
    (d.rowId.isTruthy = true → id = d.rowId) ∧
    (d.rowId.isTruthy = false →
      (∀ found, d.readBack? = some found → found = .ok id) ∧ (d.readBack? = none → id = d.keptId)) := by
  have hnull : Value.null.isTruthy = false := rfl
  cases d with
  | scripted d => cases hd
  | sqlite d =>
      have hresult : SqliteDriver.resultOf d.reply = .ok result :=
        SqliteDriver.resultOf_of_execute (Prod.ext hexecute rfl)
      have hid : id = ((DriverCall.execute sql values).after (.sqlite d)).keptId := (Except.ok.inj hask).symm
      have htold : (DriverCall.execute sql values).told? (.sqlite d) = result.toldId? := by
        change ((Driver.sqlite d).execute sql values).1.toOption.bind QueryResult.toldId? = _
        rw [hexecute]
        rfl
      have hlast := SqliteDriver.lastInsertId_of_resultOf hresult
      rw [DriverCall.keptId_after _ rfl, htold] at hid
      unfold QueryResult.toldId? at hid
      refine ⟨fun hrow => ?_, fun hrow => ⟨fun _ h => absurd h (Option.some_ne_none _).symm, fun _ => ?_⟩⟩
      · have hrow : d.reply.lastRowId.isTruthy = true := hrow
        rw [hlast, if_pos hrow, if_pos hrow] at hid
        exact hid
      · have hrow : ¬ d.reply.lastRowId.isTruthy = true := Bool.eq_false_iff.1 hrow
        rw [hlast, if_neg hrow, hnull] at hid
        exact hid
  | cursor d =>
      obtain ⟨hresult, htold, huntold⟩ :=
        CursorDriver.askInsertId_of_execute (Prod.ext hexecute rfl) hone hadds (Prod.ext hask rfl)
      have hlast := CursorDriver.lastInsertId_of_resultOf hresult
      refine ⟨fun hrow => ?_, fun hrow => ?_⟩
      · have hrow : d.reply.lastRowId.isTruthy = true := hrow
        rw [hlast, if_pos hrow] at htold
        exact htold hrow
      · have hrow : ¬ d.reply.lastRowId.isTruthy = true := Bool.eq_false_iff.1 hrow
        rw [hlast, if_neg hrow] at huntold
        obtain ⟨hkept, hfound⟩ := huntold hnull
        refine ⟨fun found h => ?_, fun h => hkept (Option.map_eq_none_iff.1 h)⟩
        obtain ⟨query, hquery, rfl⟩ := Option.map_eq_some_iff.1 h
        obtain ⟨cell, hcell, hid⟩ := hfound query hquery
        rw [hcell]
        exact hid

theorem Stage.driver_run (σ : Stage) (ms : List Move) :
    (σ.run ms).driver = (ms.filterMap Move.call?).foldl (fun d c => c.after d) σ.driver := by
  induction ms generalizing σ with
  | nil => rfl
  | cons m ms ih =>
      rw [run_cons, ih]
      unfold after
      cases hcall : m.call? with
      | none => rw [List.filterMap_cons_none hcall]
      | some c => rw [List.filterMap_cons_some hcall, List.foldl_cons]

/-- The calls of the driver in a course make up what becomes of it. -/
theorem Course.driver {s t : Session} {ms : List Move} (h : Course s ms t) :
    t.driver = (ms.filterMap Move.call?).foldl (fun d c => c.after d) s.driver :=
  (congrArg Stage.driver h.run.1).trans (Stage.driver_run _ _)

namespace Execution

open Execute

variable {env : Surroundings} {id : Nat} {verb : InsertVerb} {entries : List (Value × Value)} {i : Issued}
  {s t u : Session} {v : Value}

/-- The statement of an insertion is a text by whose first word a driver knows it. -/
theorem addsRows_of_ready (h : ((insert verb entries).ready id).exec env s = (.ok i, t)) :
    (∃ text, i.sql.written = .ok text) ∧ CursorDriver.addsRows i.sql = .ok true := by
  obtain ⟨early, w, hmake, h⟩ := exec_bind_eq_ok h
  obtain ⟨_, w', -, h⟩ := exec_bind_eq_ok h
  cases h
  obtain ⟨-, q, w'', hcompile, rfl⟩ := exec_prepare_eq_ok hmake
  rw [compile_eq] at hcompile
  obtain ⟨dialect, _, hdialect, hcompile⟩ := exec_bind_eq_ok hcompile
  rw [exec_dialect] at hdialect
  cases hdialect
  obtain ⟨tree, _, htree, hrender⟩ := exec_bind_eq_ok hcompile
  rw [exec_lift] at hrender
  have hinsert : ∃ c, tree = .insert c verb (.map entries) := by
    obtain ⟨depth, _, -, htree⟩ := exec_bind_eq_ok htree
    obtain ⟨draft, _, -, htree⟩ := exec_bind_eq_ok htree
    obtain ⟨d, _, -, htree⟩ := exec_bind_eq_ok htree
    cases htree
    exact ⟨_, rfl⟩
  obtain ⟨c, rfl⟩ := hinsert
  have hwritten : c.insert (.ofEngine s.driver.engine) verb (.map entries) = .ok q := congrArg Prod.fst hrender
  exact ⟨⟨q.sql, rfl⟩, addsRows_insert hwritten⟩

/-- An insertion that gives something has handed its statement over, and has asked for the identifier if one row was
added. -/
theorem insert_eq_ok (h : ((insert verb entries).call.perform id).exec env s = (.ok v, u)) :
    ∃ i t result, (insert verb entries).Reaches env id s i t ∧ CursorDriver.addsRows i.sql = .ok true ∧
      (t.driver.execute i.sql i.bindings).1 = .ok result ∧
      ((insert verb entries).identify result ((DriverCall.execute i.sql i.bindings).after t.driver)).1 = .ok v := by
  rw [perform_call] at h
  obtain ⟨i, t, hready, h⟩ := exec_bind_eq_ok h
  obtain ⟨result, w, hrun, h⟩ := exec_bind_eq_ok h
  obtain ⟨⟨text, htext⟩, hadds⟩ := addsRows_of_ready hready
  obtain ⟨hopen, hw⟩ := run_eq_ok hrun
  refine ⟨i, t, result, ⟨hready, hopen, fun hx => nomatch hx⟩, hadds, ?_, ?_⟩
  · have hexecute := congrArg Prod.fst ((exec_run_eq hopen htext).symm.trans hrun)
    cases houtcome : (t.driver.execute i.sql i.bindings).1 with
    | ok found =>
        rw [houtcome] at hexecute
        cases hexecute
        rfl
    | error fault =>
        rw [houtcome] at hexecute
        cases hexecute
  · subst hw
    rw [conclude_eq] at h
    obtain ⟨insertId, x, hask, h⟩ := exec_bind_eq_ok h
    obtain ⟨_, y, -, h⟩ := exec_bind_eq_ok h
    obtain rfl : insertId = v := Except.ok.inj (congrArg Prod.fst h)
    rw [exec_identify] at hask
    exact congrArg Prod.fst hask

/-- What the insertion of one row gives after any history of a connection whose driver has just been made. Unless the
database counts one row nothing is given. Otherwise it is the identifier that the cursor of this very statement tells;
where it tells none, what is read back right behind the statement; and where nothing is read back, the identifier that
the driver has come to know last in the history, which is none if no statement has told one. -/
theorem insert_identifier (depth : Nat) {s₀ : Session} {ms : List Move} (hreal : s₀.driver.isScripted = false)
    (hfresh : s₀.driver.keptId = .null) (hhistory : Course s₀ ms s)
    (hcall : ((insert verb entries).call.perform id).exec (Play.surroundings depth) s = (.ok v, u)) :
    ∃ i t ms' result, (insert verb entries).Reaches (Play.surroundings depth) id s i t ∧ Course s ms' t ∧
      (t.driver.execute i.sql i.bindings).1 = .ok result ∧
      (result.affectedRows.same (.int 1) = false → v = .null) ∧
      (result.affectedRows.same (.int 1) = true →
        (t.driver.rowId.isTruthy = true → v = t.driver.rowId) ∧
        (t.driver.rowId.isTruthy = false →
          (∀ found, t.driver.readBack? = some found → found = .ok v) ∧
          (t.driver.readBack? = none →
            v = (DriverCall.latest? s₀.driver ((ms ++ ms').filterMap Move.call?)).getD .null))) := by
  obtain ⟨i, t, result, hreaches, hadds, hexecute, hidentify⟩ := insert_eq_ok hcall
  obtain ⟨ms', -, hcourse, -⟩ := hreaches.courses
  have hdriver := (hhistory.append hcourse).driver
  have hkind : t.driver.isScripted = false := by
    rw [hdriver, DriverCall.isScripted_foldl_after, hreal]
  have hkept : t.driver.keptId = (DriverCall.latest? s₀.driver ((ms ++ ms').filterMap Move.call?)).getD .null := by
    rw [hdriver, DriverCall.keptId_foldl_after _ hreal, hfresh]
  unfold identify asks at hidentify
  dsimp only at hidentify
  refine ⟨i, t, ms', result, hreaches, hcourse, hexecute, fun hnone => ?_, fun hone => ?_⟩
  · rw [hnone] at hidentify
    cases hidentify
    rfl
  · rw [if_pos hone] at hidentify
    obtain ⟨htold, huntold⟩ := Driver.lastInsertId_of_execute hkind hexecute hone hadds hidentify
    refine ⟨htold, fun hrow => ⟨(huntold hrow).1, fun hnone => ?_⟩⟩
    rw [← hkept]
    exact (huntold hrow).2 hnone

/-- A builder on a connection with cursors that answer so. -/
def numbering (engine : Engine) (replies : List CursorReply) : Session :=
  { watched .beforeDelete [] [] with
    driver := .cursor {
      engine
      style := .qmark
      catchesAll := false
      replies
      commitFailure := none
      rollbackFailure := none
      closeFailure := none } }

def addingAda : Execution := insert .insert [(.text "name", .text "Ada")]

/-- Two insertions for PostgreSQL, each with an identifier of its own that is read back. -/
def twoPeople : Session :=
  numbering .postgresql [{ rowCount := .int 1 }, { columns := ["lastval"], rows := [[.int 7]] }, { rowCount := .int 1 },
    { columns := ["lastval"], rows := [[.int 8]] }]

def oneOfTwo : Session := ((addingAda.call.perform 0).exec (Play.surroundings 2) twoPeople).2

/-- What the insertion comes to when it hands its statement over: whether one row is counted, whether the cursor tells
an identifier, and the number that is read back. -/
def prospect (i : Issued) (d : Driver) : Option Bool × Bool × Option Int :=
  ((d.execute i.sql i.bindings).1.toOption.map fun result => result.affectedRows.same (.int 1), d.rowId.isTruthy,
    d.readBack?.bind fun found => found.toOption.bind Value.asInt?)

/-- The second insertion gives what is read back behind it, not what the first one has given. -/
theorem insert_identifier_second : ∃ (ms : List Move) (v : Value) (u : Session), Course twoPeople ms oneOfTwo ∧
    twoPeople.driver.keptId = .null ∧
    (addingAda.call.perform 0).exec (Play.surroundings 2) oneOfTwo = (.ok v, u) ∧ v.asInt? = some 8 := by
  have hkeeps : Keeps (Courses fun _ => True) (Play.surroundings 2) (addingAda.call.perform 0) :=
    BuilderCall.keeps_perform 0 _
  obtain ⟨ms, -, hhistory⟩ := hkeeps twoPeople
  obtain ⟨v, hcall, -⟩ := exec_eq_ok (addingAda.call.perform 0) (Play.surroundings 2) oneOfTwo (fun _ => ()) (y := ())
    (by decide +kernel)
  obtain ⟨i, t, ms', result, hreaches, -, hexecute, -, hone⟩ := insert_identifier 2 rfl rfl hhistory hcall
  have hprospect : ((addingAda.ready 0).exec (Play.surroundings 2) oneOfTwo).1.toOption.map (fun i =>
      prospect i ((addingAda.ready 0).exec (Play.surroundings 2) oneOfTwo).2.driver) =
        some (some true, false, some 8) := by decide +kernel
  have hready : (addingAda.ready 0).exec (Play.surroundings 2) oneOfTwo = (.ok i, t) := hreaches.ready
  rw [hready] at hprospect
  obtain ⟨hcount, hrow, hread⟩ : _ ∧ _ ∧ _ := by
    simpa only [prospect, hexecute, Except.toOption, Option.map_some, Option.some.injEq, Prod.mk.injEq] using hprospect
  obtain ⟨found, hfound, hnumber⟩ := Option.bind_eq_some_iff.1 hread
  obtain ⟨hback, -⟩ := (hone hcount).2 hrow
  rw [hback found hfound] at hnumber
  exact ⟨ms, v, _, hhistory, rfl, hcall, hnumber⟩

/-- Two insertions for MySQL, of which only the first one has an identifier. -/
def onePerson : Session :=
  numbering .mysql [{ rowCount := .int 1, lastRowId := .int 5 }, { rowCount := .int 1 }]

/-- Where the cursor tells no identifier, an insertion for MySQL gives that of the one before. -/
theorem not_insert_identifier_stale : ∃ s t : Session, onePerson.driver.keptId = .null ∧
    s = ((addingAda.call.perform 0).exec (Play.surroundings 2) onePerson).2 ∧
    (((addingAda.call.perform 0).exec (Play.surroundings 2) onePerson).1.toOption.bind Value.asInt?) = some 5 ∧
    t = ((addingAda.ready 0).exec (Play.surroundings 2) s).2 ∧ t.driver.rowId = .null ∧
    (((addingAda.call.perform 0).exec (Play.surroundings 2) s).1.toOption.bind Value.asInt?) = some 5 :=
  ⟨_, _, rfl, rfl, by decide +kernel, rfl, rfl, by decide +kernel⟩

end Execution

end SqlBuilder
