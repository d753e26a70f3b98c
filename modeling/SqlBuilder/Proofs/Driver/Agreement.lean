import Mathlib.Data.List.Dedup
import Mathlib.Data.List.Induction
import SqlBuilder.Driver
import SqlBuilder.DriverReport
import SqlBuilder.Proofs.Driver.CursorRun
import SqlBuilder.Proofs.Driver.Identity
import SqlBuilder.Proofs.Driver.Report
import SqlBuilder.Proofs.Driver.SqliteRun
import SqlBuilder.Proofs.Hooks.Standing

/-!
The two drivers for SQLite before one cursor. They make the same result of an answer but for the rows, where they differ
on columns of one name, and they report the same failures but for the code, which one of them takes from the database
and the other one does not know.
-/

namespace SqlBuilder

open Talk

/-! ### Rows by column -/

def distinctNames (names : List String) : List String := names.reverse.dedup.reverse

theorem mem_distinctNames {names : List String} {name : String} : name ∈ distinctNames names ↔ name ∈ names := by
  rw [distinctNames, List.mem_reverse, List.mem_dedup, List.mem_reverse]

theorem nodup_distinctNames (names : List String) : (distinctNames names).Nodup :=
  List.nodup_reverse.2 (List.nodup_dedup _)

theorem distinctNames_concat (names : List String) (name : String) : distinctNames (names ++ [name]) =
    if name ∈ names then distinctNames names else distinctNames names ++ [name] := by
  unfold distinctNames
  rw [List.reverse_append, List.reverse_singleton, List.singleton_append]
  by_cases hname : name ∈ names
  · rw [if_pos hname, List.dedup_cons_of_mem (List.mem_reverse.2 hname)]
  · rw [if_neg hname, List.dedup_cons_of_notMem (mt List.mem_reverse.1 hname), List.reverse_cons]

/-- The value that stands last under a name. -/
def lastUnder (cells : List (String × Value)) (name : String) : Value :=
  ((cells.reverse.find? fun cell => cell.1 = name).map (·.2)).getD .null

theorem lastUnder_concat (cells : List (String × Value)) (cell : String × Value) (name : String) :
    lastUnder (cells ++ [cell]) name = if cell.1 = name then cell.2 else lastUnder cells name := by
  unfold lastUnder
  rw [List.reverse_append, List.reverse_singleton, List.singleton_append, List.find?_cons]
  by_cases hname : cell.1 = name <;> simp [hname]

theorem lastUnder_map (value : String → Value) {names : List String} {name : String} (hname : name ∈ names) :
    lastUnder (names.map fun n => (n, value n)) name = value name := by
  induction names using List.reverseRecOn with
  | nil => cases hname
  | append_singleton names last ih =>
      rw [List.map_append, List.map_singleton, lastUnder_concat]
      by_cases hlast : last = name
      · rw [if_pos hlast, hlast]
      · rw [if_neg hlast]
        rcases List.mem_append.1 hname with hname | hname
        · exact ih hname
        · exact absurd (List.mem_singleton.1 hname).symm hlast

/-- An entry under one of the names takes the place of the one that is there. -/
theorem insertEntry_of_mem {names : List String} (hnames : names.Nodup) {name : String} (hname : name ∈ names)
    (value : String → Value) (v : Value) :
    Value.insertEntry (.text name) v (names.map fun n => (.text n, value n)) =
      names.map fun n => (.text n, if name = n then v else value n) := by
  induction names with
  | nil => cases hname
  | cons first rest ih =>
      obtain ⟨hfirst, hrest⟩ := List.nodup_cons.1 hnames
      rw [List.map_cons, List.map_cons, Value.insertEntry]
      by_cases heq : name = first
      · subst heq
        rw [if_pos (Value.alike_text.2 rfl), if_pos rfl]
        refine congrArg (_ :: ·) (List.map_congr_left fun n hn => ?_)
        rw [if_neg]
        rintro rfl
        exact hfirst hn
      · have hother : ¬(Value.text name).alike (.text first) = true :=
          fun h => heq (Value.text.inj (Value.alike_text.1 h)).symm
        rw [if_neg hother, if_neg heq, ih hrest ((List.mem_cons.1 hname).resolve_left heq)]

theorem insertEntry_of_not_mem {names : List String} {name : String} (hname : name ∉ names) (value : String → Value)
    (v : Value) : Value.insertEntry (.text name) v (names.map fun n => (.text n, value n)) =
      (names.map fun n => (.text n, value n)) ++ [(.text name, v)] := by
  induction names with
  | nil => rfl
  | cons first rest ih =>
      obtain ⟨hfirst, hrest⟩ := not_or.1 (mt List.mem_cons.2 hname)
      have hother : ¬(Value.text name).alike (.text first) = true :=
        fun h => hfirst (Value.text.inj (Value.alike_text.1 h)).symm
      rw [List.map_cons, Value.insertEntry, if_neg hother, ih hrest, List.cons_append]

/-- A mapping made of cells has the distinct names in order, each with the value that stands last under it. -/
theorem entriesOf_cells (cells : List (String × Value)) :
    Value.entriesOf (cells.map fun cell => (Value.text cell.1, cell.2)) =
      (distinctNames (cells.map (·.1))).map fun name => (.text name, lastUnder cells name) := by
  induction cells using List.reverseRecOn with
  | nil => rfl
  | append_singleton cells cell ih =>
      have hlast : Value.entriesOf ((cells ++ [cell]).map fun cell => (Value.text cell.1, cell.2)) =
          Value.insertEntry (.text cell.1) cell.2
            (Value.entriesOf (cells.map fun cell => (Value.text cell.1, cell.2))) := by
        unfold Value.entriesOf
        rw [List.map_append, List.foldl_append]
        rfl
      rw [hlast, ih, List.map_append, List.map_singleton, distinctNames_concat]
      by_cases hname : cell.1 ∈ cells.map (·.1)
      · rw [if_pos hname, insertEntry_of_mem (nodup_distinctNames _) (mem_distinctNames.2 hname)]
        exact List.map_congr_left fun n _ => by rw [lastUnder_concat]
      · have hnew : cell.1 ∉ distinctNames (cells.map (·.1)) := mt mem_distinctNames.1 hname
        rw [if_neg hname, insertEntry_of_not_mem hnew, List.map_append, List.map_singleton, lastUnder_concat,
          if_pos rfl]
        congr 1
        refine List.map_congr_left fun n hn => ?_
        rw [lastUnder_concat, if_neg]
        rintro rfl
        exact hnew hn

/-- Only one cell is found under a key that no two cells have. -/
theorem find?_of_nodup {κ : Type} [DecidableEq κ] (key : String → κ) {cells : List (String × Value)}
    (hkeys : (cells.map fun cell => key cell.1).Nodup) {cell : String × Value} (hcell : cell ∈ cells) :
    (cells.find? fun other => key other.1 = key cell.1) = some cell := by
  induction cells with
  | nil => cases hcell
  | cons first rest ih =>
      obtain ⟨hfirst, hrest⟩ := List.nodup_cons.1 hkeys
      rcases List.mem_cons.1 hcell with rfl | hcell
      · rw [List.find?_cons_of_pos (by simp)]
      · have hne : key first.1 ≠ key cell.1 := by
          intro h
          refine hfirst ?_
          change key first.1 ∈ _
          rw [h]
          exact List.mem_map_of_mem (f := fun cell : String × Value => key cell.1) hcell
        rw [List.find?_cons_of_neg (by simpa using hne), ih hrest hcell]

/-- The value that the first column of the name gives, whatever the case of its letters, is also the one that stands
last under exactly the name. -/
def Unambiguous (columns : List String) (cells : List Value) : Prop :=
  ∀ name ∈ columns, (SqliteDriver.cell? columns cells name).getD .null = lastUnder (columns.zip cells) name

theorem unambiguous_of_nodup {columns : List String} {cells : List Value} (hlength : cells.length = columns.length)
    (hnames : (columns.map SqliteDriver.foldedName).Nodup) : Unambiguous columns cells := by
  intro name hname
  have hfst : (columns.zip cells).map (·.1) = columns := List.map_fst_zip (Nat.le_of_eq hlength.symm)
  obtain ⟨cell, hcell, rfl⟩ : ∃ cell ∈ columns.zip cells, cell.1 = name := by
    rw [← hfst] at hname
    exact List.mem_map.1 hname
  have hfolded : ((columns.zip cells).map fun cell => SqliteDriver.foldedName cell.1).Nodup := by
    rw [← hfst, List.map_map] at hnames
    exact hnames
  have hexact : ((columns.zip cells).reverse.map fun cell => cell.1).Nodup := by
    rw [List.map_reverse, List.nodup_reverse, hfst]
    exact List.Nodup.of_map SqliteDriver.foldedName hnames
  have hfirst := find?_of_nodup SqliteDriver.foldedName hfolded hcell
  have hlast := find?_of_nodup id hexact (List.mem_reverse.2 hcell)
  simp only [id_eq] at hlast
  unfold SqliteDriver.cell? lastUnder
  rw [hfirst, hlast]

/-- The two rows that are made of the same cells. -/
theorem rows_eq_iff {columns : List String} {cells : List Value} (hlength : cells.length = columns.length) :
    SqliteDriver.rowOf columns cells = Value.entriesOf ((columns.map Value.text).zip cells) ↔
      Unambiguous columns cells := by
  have hfst : (columns.zip cells).map (·.1) = columns := List.map_fst_zip (Nat.le_of_eq hlength.symm)
  have hnamed : SqliteDriver.rowOf columns cells = (distinctNames columns).map fun name =>
      (.text name, (SqliteDriver.cell? columns cells name).getD .null) := by
    have hpairs := entriesOf_cells
      (columns.map fun name => (name, (SqliteDriver.cell? columns cells name).getD .null))
    rw [List.map_map, List.map_map] at hpairs
    have hnames : columns.map ((fun cell : String × Value => cell.1) ∘ fun name =>
        (name, (SqliteDriver.cell? columns cells name).getD .null)) = columns := List.map_id' columns
    rw [hnames] at hpairs
    refine hpairs.trans (List.map_congr_left fun name hname => ?_)
    rw [lastUnder_map _ (mem_distinctNames.1 hname)]
  have hzipped : Value.entriesOf ((columns.map Value.text).zip cells) = (distinctNames columns).map fun name =>
      (.text name, lastUnder (columns.zip cells) name) := by
    have hpairs := entriesOf_cells (columns.zip cells)
    rw [hfst] at hpairs
    rw [List.zip_map_left]
    exact hpairs
  rw [hnamed, hzipped, List.map_inj_left]
  simp only [mem_distinctNames, Prod.mk.injEq, true_and]
  rfl

/-! ### One cursor for both drivers -/

/-- A failure of SQLite as the module raises it: with its message, and without its code. -/
def ModuleFailure.ofSqlite (f : SqliteFailure) : ModuleFailure where
  className := f.className
  details := [.text f.message]

def CursorReply.ofSqlite (r : SqliteReply) : CursorReply where
  failure := r.failure.map .ofSqlite
  columns := r.columns
  rows := r.rows
  rowCount := r.rowCount
  lastRowId := r.lastRowId

def SqliteFailure.state (f : SqliteFailure) : String := if f.isIntegrity then "23000" else "HY000"

/-- The report of a driver that does not know the code of the failure, and has the state in its place. -/
def SqliteFailure.toPlainFault (f : SqliteFailure) : DriverFault := ⟨.text f.state, .text f.state, .text f.message⟩

theorem reported_ofSqlite {α : Type} (f : SqliteFailure) :
    (CursorDriver.reported (.ofSqlite f) : Except Fault α) = .error (.driver f.toPlainFault) := by
  have hreport : (ModuleFailure.ofSqlite f).toDriverFault = .ok f.toPlainFault := by
    have hdefault : (ModuleFailure.ofSqlite f).defaultState = .text f.state := by
      unfold ModuleFailure.defaultState SqliteFailure.state SqliteFailure.isIntegrity ModuleFailure.ofSqlite
      simp only [decide_eq_true_eq]
    unfold SqliteFailure.toPlainFault
    rw [← hdefault]
    rfl
  unfold CursorDriver.reported
  rw [hreport]
  rfl

/-! ### The category of a failure -/

/-- The category into which the library puts a report of SQLite. -/
def DriverFault.category (f : DriverFault) : Except Fault FaultCategory := (f.classify (some .sqlite)).map (·.1)

def messageCategory (message : String) : FaultCategory :=
  if Text.contains (Text.lower message) "no such table" then .tableNotFound
  else if Text.contains (Text.lower message) "no such column" then .columnNotFound
  else .query

theorem messageCategory_ne_notNull (message : String) : messageCategory message ≠ .notNull := by
  unfold messageCategory
  split
  · decide
  · split <;> decide

/-- Only the code of a violated constraint counts for more than the message. -/
theorem category_eq {f : DriverFault} {state message : String} {number : Int} (hstate : f.sqlState = .text state)
    (hcode : DriverFault.numericCode f.code = .ok (.int number)) (hmessage : f.message = .text message) :
    f.category = .ok (if state = "23000" ∧ number = 19 then .notNull else messageCategory message) := by
  have hsame : (f.sqlState.same (.text "23000") && decide (((Value.int number).asInt?.getD 0) =
      DriverFault.sqliteConstraint)) = decide (state = "23000" ∧ number = 19) := by
    rw [hstate]
    change (state == "23000" && decide (number = 19)) = _
    rw [Bool.decide_and]
    rfl
  unfold DriverFault.category DriverFault.classify
  dsimp only
  rw [DriverFault.numericCode_bind hcode, hsame]
  by_cases hconstraint : state = "23000" ∧ number = 19
  · rw [if_pos (by simpa using hconstraint), if_pos hconstraint, hstate, hconstraint.1]
    rfl
  · rw [if_neg (by simpa using hconstraint), if_neg hconstraint, hmessage]
    unfold messageCategory
    dsimp only
    split
    · rfl
    · split <;> rfl

/-- The code of the database, if it tells one, by its last byte. -/
def SqliteFailure.primaryCode (f : SqliteFailure) : Int :=
  match f.code with
  | some code => code.emod 256
  | none => if f.isIntegrity then 19 else 1

/-- The two reports of a failure fall into one category unless a constraint is violated. -/
theorem category_eq_iff (f : SqliteFailure) : f.toDriverFault.category = f.toPlainFault.category ↔
    ¬(f.isIntegrity = true ∧ f.primaryCode = 19) := by
  have hstate : f.state = "23000" ↔ f.isIntegrity = true := by
    unfold SqliteFailure.state
    cases f.isIntegrity <;> decide
  have hplain : ∃ number : Int, DriverFault.numericCode (.text f.state) = .ok (.int number) ∧ number ≠ 19 := by
    unfold SqliteFailure.state
    cases f.isIntegrity with
    | true => exact ⟨23000, rfl, by decide⟩
    | false => exact ⟨0, rfl, by decide⟩
  obtain ⟨number, hnumber, hne⟩ := hplain
  have hcoded : f.toDriverFault.category = .ok (if f.state = "23000" ∧ f.primaryCode = 19 then .notNull
      else messageCategory f.message) := category_eq rfl rfl rfl
  have huncoded : f.toPlainFault.category = .ok (if f.state = "23000" ∧ number = 19 then .notNull
      else messageCategory f.message) := category_eq rfl hnumber rfl
  have hother : ¬(f.state = "23000" ∧ number = 19) := fun h => hne h.2
  rw [hcoded, huncoded, Except.ok.injEq, if_neg hother, ← hstate]
  by_cases hconstraint : f.state = "23000" ∧ f.primaryCode = 19
  · rw [if_pos hconstraint]
    exact ⟨fun h => absurd h.symm (messageCategory_ne_notNull _), fun h => absurd hconstraint h⟩
  · rw [if_neg hconstraint]
    exact ⟨fun _ => hconstraint, fun _ => rfl⟩

/-- Both drivers have the answer of one cursor before them, and nothing but the statement can fail. -/
structure ShareCursor (d : SqliteDriver) (c : CursorDriver) : Prop where
  engine : c.engine = .sqlite
  style : c.style = .qmark
  isOpen : d.isOpen = true ∧ c.isOpen = true
  reply : c.reply = .ofSqlite d.reply
  commits : c.commitFailure = none ∧ c.rollbackFailure = none
  cursors : c.cursorFailure = none ∧ c.cursorCloseFailure = none

namespace ShareCursor

variable {d : SqliteDriver} {c : CursorDriver} (h : ShareCursor d c)

include h

theorem exec_sqlite (sql : Value) (values : List Value) : ((Driver.sqlite d).execute sql values).1 =
    match d.reply.failure with
    | some f => .error f.toFault
    | none => SqliteDriver.resultOf d.reply := by
  obtain ⟨d', hexecute⟩ := SqliteDriver.exec_execute h.isOpen.1 sql values []
  exact congrArg Prod.fst hexecute

theorem exec_cursor (sql : Value) (values : List Value) : ((Driver.cursor c).execute sql values).1 =
    match d.reply.failure with
    | some f => CursorDriver.reported (.ofSqlite f)
    | none => CursorDriver.resultOf (.ofSqlite d.reply) := by
  obtain ⟨converted, hconverted⟩ : ∃ converted, c.style.convertValue sql = .ok converted := by
    rw [h.style]
    cases sql <;> exact ⟨_, rfl⟩
  have hfailure : c.statementFailure = d.reply.failure.map .ofSqlite := by
    unfold CursorDriver.statementFailure
    rw [h.reply, h.commits.1]
    unfold CursorReply.ofSqlite
    cases d.reply.failure with
    | none => simp
    | some f => rfl
  have hdeclared : ∀ f ∈ c.statementFailure, c.Declares f := by
    intro f hf
    rw [hfailure] at hf
    obtain ⟨g, -, rfl⟩ := Option.map_eq_some_iff.1 hf
    exact .inr rfl
  have hexecute : Talk.exec (CursorDriver.execute sql values) (c, []) = _ :=
    CursorDriver.exec_execute_converted h.isOpen.2 hconverted h.cursors.1 hdeclared []
  refine (congrArg Prod.fst hexecute).trans ?_
  dsimp only
  have houtcome : c.attemptOutcome = match d.reply.failure with
      | some f => CursorDriver.reported (.ofSqlite f)
      | none => .ok (CursorDriver.resultOf (.ofSqlite d.reply)) := by
    unfold CursorDriver.attemptOutcome
    rw [hfailure, h.commits.2, h.reply, ite_self]
    cases d.reply.failure <;> rfl
  rw [h.cursors.2, houtcome]
  cases d.reply.failure with
  | some f =>
      dsimp only
      rw [reported_ofSqlite, reported_ofSqlite]
  | none =>
      cases CursorDriver.resultOf (.ofSqlite d.reply) with
      | error e => rfl
      | ok result =>
          dsimp only
          rw [CursorDriver.exec_remember_eq, h.engine]
          rfl

end ShareCursor

/-- The rest of a result, where no rows are told. -/
def QueryResult.rowless (r : QueryResult) : QueryResult := { r with rows := [] }

theorem QueryResult.eq_iff {r r' : QueryResult} : r = r' ↔ r.rows = r'.rows ∧ r.rowless = r'.rowless := by
  cases r
  cases r'
  simp only [rowless, QueryResult.mk.injEq, true_and]

/-- The rows of an answer as the driver for SQLite makes them. -/
def SqliteReply.looked (r : SqliteReply) : List Row :=
  if r.columns.isEmpty then [] else r.rows.map (SqliteDriver.rowOf r.columns)

/-- The rows of an answer as they come from its cells in order. -/
def SqliteReply.zipped (r : SqliteReply) : List Row :=
  if r.columns.isEmpty then [] else r.rows.map fun cells => Value.entriesOf ((r.columns.map Value.text).zip cells)

theorem SqliteReply.length_looked (r : SqliteReply) : r.looked.length = r.zipped.length := by
  unfold looked zipped
  split
  · rfl
  · rw [List.length_map, List.length_map]

theorem SqliteReply.looked_eq_iff {r : SqliteReply} (hlength : ∀ cells ∈ r.rows, cells.length = r.columns.length) :
    r.looked = r.zipped ↔ ∀ cells ∈ r.rows, Unambiguous r.columns cells := by
  unfold looked zipped
  by_cases hcolumns : r.columns.isEmpty = true
  · rw [if_pos hcolumns, if_pos hcolumns]
    have hnone : r.columns = [] := List.isEmpty_iff.1 hcolumns
    refine ⟨fun _ cells _ name hname => ?_, fun _ => rfl⟩
    rw [hnone] at hname
    cases hname
  · rw [if_neg hcolumns, if_neg hcolumns, List.map_inj_left]
    exact forall₂_congr fun cells hcells => rows_eq_iff (hlength cells hcells)

/-- What both drivers tell about a statement that was answered, but for the rows. -/
def SqliteReply.toResult (r : SqliteReply) (rows : List Row) (changed : Int) : QueryResult :=
  let affected := if 0 < changed then r.rowCount else .int 0
  { rows
    rowCount := if r.columns.isEmpty then affected else .int rows.length
    columns := r.columns.map Value.text
    lastInsertId := if r.lastRowId.isTruthy then r.lastRowId else .null
    affectedRows := affected }

theorem SqliteDriver.resultOf_eq {r : SqliteReply} {n : Int} (hcount : r.rowCount = .int n) :
    resultOf r = .ok (r.toResult r.looked n) := by
  unfold resultOf SqliteReply.toResult SqliteReply.looked
  rw [hcount]
  simp only [Value.isPositive?, Value.asInt?, Option.map_some, decide_eq_true_eq]

theorem CursorDriver.resultOf_eq {r : SqliteReply} {n : Int} (hcount : r.rowCount = .int n) :
    resultOf (.ofSqlite r) = .ok (r.toResult r.zipped n) := by
  have hwhole : (if (CursorReply.ofSqlite r).rowCount.isTruthy = true then (CursorReply.ofSqlite r).rowCount
      else .int 0) = .int n := by
    change (if r.rowCount.isTruthy = true then r.rowCount else .int 0) = _
    rw [hcount]
    by_cases hzero : n = 0
    · subst hzero
      rfl
    · exact if_pos (bne_iff_ne.2 hzero)
  unfold resultOf SqliteReply.toResult
  dsimp only
  rw [hwhole, hcount]
  simp only [Value.isPositive?, Value.asInt?, Option.map_some, decide_eq_true_eq]
  rfl

theorem SqliteReply.rowless_toResult {r : SqliteReply} {rows rows' : List Row} (hlength : rows.length = rows'.length)
    (n : Int) : (r.toResult rows n).rowless = (r.toResult rows' n).rowless := by
  unfold toResult QueryResult.rowless
  rw [hlength]

/-- What the two drivers for SQLite make of the outcome of one cursor. From an answer they make results that are equal
but for the rows, and equal altogether exactly if every column gives the same value when it is looked up by the first
name like its own and by the last name that is its own; so they are where no two columns have names that differ at most
in case. A failure they report with the same state and message, and the library takes the two reports for faults of one
category exactly if it is no violated constraint. -/
theorem SqliteDriver.execute_agree {d : SqliteDriver} {c : CursorDriver} (h : ShareCursor d c) (sql : Value)
    (values : List Value) :
    (d.reply.failure = none → (∃ n : Int, d.reply.rowCount = .int n) →
      (∀ cells ∈ d.reply.rows, cells.length = d.reply.columns.length) →
      ∃ r r', ((Driver.sqlite d).execute sql values).1 = .ok r ∧ ((Driver.cursor c).execute sql values).1 = .ok r' ∧
        r.rowless = r'.rowless ∧
        (r = r' ↔ ∀ cells ∈ d.reply.rows, Unambiguous d.reply.columns cells) ∧
        ((d.reply.columns.map SqliteDriver.foldedName).Nodup → r = r')) ∧
    ∀ f, d.reply.failure = some f → f.className ≠ "Warning" →
      ∃ g g', ((Driver.sqlite d).execute sql values).1 = .error (.driver g) ∧
        ((Driver.cursor c).execute sql values).1 = .error (.driver g') ∧
        g.sqlState = g'.sqlState ∧ g.message = g'.message ∧
        (g.category = g'.category ↔ ¬(f.isIntegrity = true ∧ f.primaryCode = 19)) := by
  rw [h.exec_sqlite, h.exec_cursor]
  refine ⟨fun hanswer => ?_, fun f hf hwarning => ?_⟩
  · rintro ⟨n, hcount⟩ hlength
    rw [hanswer]
    have hrest := SqliteReply.rowless_toResult (r := d.reply) d.reply.length_looked n
    have hequal : d.reply.toResult d.reply.looked n = d.reply.toResult d.reply.zipped n ↔
        ∀ cells ∈ d.reply.rows, Unambiguous d.reply.columns cells :=
      QueryResult.eq_iff.trans ((and_iff_left hrest).trans (SqliteReply.looked_eq_iff hlength))
    refine ⟨_, _, resultOf_eq hcount, CursorDriver.resultOf_eq hcount, hrest, hequal, fun hnames => ?_⟩
    exact hequal.2 fun cells hcells => unambiguous_of_nodup (hlength cells hcells) hnames
  · rw [hf]
    refine ⟨f.toDriverFault, f.toPlainFault, ?_, reported_ofSqlite f, ?_, rfl, category_eq_iff f⟩
    · dsimp only
      rw [SqliteFailure.toFault, if_neg hwarning]
    · rfl

/-- The two drivers before one answer of SQLite. -/
def SqliteDriver.answering (reply : SqliteReply) : SqliteDriver where
  replies := [reply]

def CursorDriver.answering (reply : SqliteReply) : CursorDriver where
  engine := .sqlite
  style := .qmark
  catchesAll := false
  replies := [.ofSqlite reply]
  commitFailure := none
  rollbackFailure := none
  closeFailure := none

theorem shareCursor_answering (reply : SqliteReply) : ShareCursor (.answering reply) (.answering reply) :=
  ⟨rfl, rfl, ⟨rfl, rfl⟩, rfl, ⟨rfl, rfl⟩, ⟨rfl, rfl⟩⟩

def oneRow : SqliteReply where
  columns := ["id", "name"]
  rows := [[.int 1, .text "Ada"]]

def missingTable : SqliteReply where
  failure := some { message := "no such table: people", code := some 1 }

theorem SqliteDriver.execute_agree_row :
    (∃ r, ((Driver.sqlite (.answering oneRow)).execute (.text "SELECT * FROM people") []).1 = .ok r ∧
      ((Driver.cursor (.answering oneRow)).execute (.text "SELECT * FROM people") []).1 = .ok r) ∧
    ∃ g g', ((Driver.sqlite (.answering missingTable)).execute (.text "SELECT * FROM people") []).1 =
        .error (.driver g) ∧
      ((Driver.cursor (.answering missingTable)).execute (.text "SELECT * FROM people") []).1 = .error (.driver g') ∧
      g.category = g'.category := by
  constructor
  · obtain ⟨r, r', hsqlite, hcursor, -, -, hequal⟩ :=
      (SqliteDriver.execute_agree (shareCursor_answering oneRow) (.text "SELECT * FROM people") []).1 rfl ⟨-1, rfl⟩
        (by decide)
    obtain rfl := hequal (by decide)
    exact ⟨r, hsqlite, hcursor⟩
  · obtain ⟨g, g', hsqlite, hcursor, -, -, hcategory⟩ :=
      (SqliteDriver.execute_agree (shareCursor_answering missingTable) (.text "SELECT * FROM people") []).2 _ rfl
        (by decide)
    exact ⟨g, g', hsqlite, hcursor, hcategory.2 (by decide)⟩

/-- Two columns of one name, and a constraint that is violated. -/
def repeatedColumn : SqliteReply where
  columns := ["id", "id"]
  rows := [[.int 1, .int 2]]

def violatedConstraint : SqliteReply where
  failure := some {
    className := "IntegrityError"
    message := "UNIQUE constraint failed: people.name"
    code := some 2067 }

/-- The first of the two columns gives the value for one driver, and the last for the other one; and the violated
constraint is known as such only by the code that the database tells. -/
theorem SqliteDriver.not_execute_agree_repeated :
    (∃ r r', ((Driver.sqlite (.answering repeatedColumn)).execute (.text "SELECT * FROM people") []).1 = .ok r ∧
      ((Driver.cursor (.answering repeatedColumn)).execute (.text "SELECT * FROM people") []).1 = .ok r' ∧
      r.rows = [[(.text "id", .int 1)]] ∧ r'.rows = [[(.text "id", .int 2)]]) ∧
    ∃ g g', ((Driver.sqlite (.answering violatedConstraint)).execute (.text "INSERT INTO people") []).1 =
        .error (.driver g) ∧
      ((Driver.cursor (.answering violatedConstraint)).execute (.text "INSERT INTO people") []).1 =
        .error (.driver g') ∧
      g.category = .ok .notNull ∧ g'.category = .ok .query := by
  constructor
  · have hsqlite := (shareCursor_answering repeatedColumn).exec_sqlite (.text "SELECT * FROM people") []
    have hcursor := (shareCursor_answering repeatedColumn).exec_cursor (.text "SELECT * FROM people") []
    refine ⟨_, _, hsqlite.trans (resultOf_eq (n := -1) rfl), hcursor.trans (CursorDriver.resultOf_eq (n := -1) rfl), ?_⟩
    exact ⟨rfl, rfl⟩
  · have hsqlite := (shareCursor_answering violatedConstraint).exec_sqlite (.text "INSERT INTO people") []
    have hcursor := (shareCursor_answering violatedConstraint).exec_cursor (.text "INSERT INTO people") []
    exact ⟨_, _, hsqlite, hcursor.trans (reported_ofSqlite _), rfl, rfl⟩

end SqlBuilder
