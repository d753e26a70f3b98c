import SqlBuilder.Proofs.Session.Independence
import SqlBuilder.Proofs.Session.Noting
import SqlBuilder.Proofs.Transaction.Atomic

/-!
Batches of rows in sessions without hooks. Each row has the statement that it would have if it were inserted alone. The
rows are handed to the driver one after the other, up to the first that fails. Outside a transaction the batch has one
of its own, which is committed if no row has failed and rolled back otherwise.
-/

namespace SqlBuilder

open Act Session

variable {env : Surroundings} {s t u v : Session} {id : Nat} {verb : InsertVerb}

def Query.execution (q : Query) : DriverCall := .execute (.text q.sql) q.bindings

namespace Session

/-- The session with the statement as the one that was noted last. -/
def noting (s : Session) (q : Query) : Session := { s with lastStatement := some (q.issued s.driver.hasEscapes) }

/-- The statement that the row compiles to if it is inserted alone. -/
def insertion (s : Session) (env : Surroundings) (id : Nat) (verb : InsertVerb) (row : Row) :
    Except Fault Query := ((compile id (.insert verb (.map row))).exec env s).1

theorem exec_compile_insert {b : Builder} (hb : s.builders[id]? = some b) (data : Value) :
    (compile id (.insert verb data)).exec env s =
      ((Resolve.opening (s.declared id)).insert (.ofEngine s.driver.engine) verb data, s) := by
  have hdeclared : (Act.draftAt b.draft).exec env s = (.ok (s.declared id), s) := by
    rw [declared_eq hb]
    rfl
  have hread : (MonadReader.read : Act Surroundings).exec env s = (.ok env, s) := rfl
  refine (exec_bind_ok exec_dialect).trans ((exec_bind_ok hread).trans ((exec_bind_ok (exec_draftOf hb)).trans ?_))
  exact (exec_bind_ok hdeclared).trans (exec_lift _)

/-- Nothing but the driver, the journal and the statement that was noted last changes, and the driver stays one for its
engine. -/
structure Standing (s t : Session) : Prop where
  hooks : t.hooks = s.hooks
  builders : t.builders = s.builders
  drafts : t.drafts = s.drafts
  scopes : t.scopes = s.scopes
  engine : t.driver.engine = s.driver.engine

instance : IsPreorder Session Standing where
  refl _ := ⟨rfl, rfl, rfl, rfl, rfl⟩
  trans _ _ _ h h' := ⟨h'.hooks.trans h.hooks, h'.builders.trans h.builders, h'.drafts.trans h.drafts,
    h'.scopes.trans h.scopes, h'.engine.trans h.engine⟩

theorem standing_noting (s : Session) (q : Query) : Standing s (s.noting q) := ⟨rfl, rfl, rfl, rfl, rfl⟩

theorem standing_called (s : Session) {c : DriverCall} (hc : c.IsStatement) : Standing s (s.called c) :=
  ⟨rfl, rfl, rfl, rfl, DriverCall.engine_after_statement hc⟩

namespace Standing

variable (h : Standing s t)

include h

theorem hookless (hs : s.Hookless) : t.Hookless := by
  intro event table
  rw [h.hooks]
  exact hs event table

theorem declared : t.declared id = s.declared id := by
  unfold Session.declared
  rw [h.builders, h.drafts]

/-- A row has the same statement as before. -/
theorem insertion {b : Builder} (hb : s.builders[id]? = some b) (row : Row) :
    t.insertion env id verb row = s.insertion env id verb row := by
  unfold Session.insertion
  rw [exec_compile_insert hb, exec_compile_insert (h.builders ▸ hb), h.declared, h.engine]

end Standing

end Session

/-! ### One row -/

namespace Transaction

open Execute

/-- What the insertion of a row comes to whose statement is given, unless it does not compile: what is given back or
raised, the moves that are made, and the session that is left. -/
inductive RowEnds (env : Surroundings) (id : Nat) (s : Session) :
    Except Fault Query → Except Fault Value → List Move → Session → Prop where
  | uncompiled {fault : Fault} : RowEnds env id s (.error fault) (.error fault) [] s
  /-- A table of the builder cannot be looked up among the hooks. -/
  | unattendable {q : Query} (h : ¬ ∀ table ∈ s.tablesOf id, table.Attendable) :
      RowEnds env id s (.ok q) (.error .typeMismatch) [] (s.noting q)
  /-- The builder works in a transaction that has ended. -/
  | closed {q : Query} {fault : Fault} (h : (requireOpen id).exec env (s.noting q) = (.error fault, s.noting q)) :
      RowEnds env id s (.ok q) (.error fault) [] (s.noting q)
  /-- The driver has failed. -/
  | rejected {q : Query} {fault : Fault} (h : (s.driver.execute (.text q.sql) q.bindings).1 = .error fault) :
      RowEnds env id s (.ok q) (.error (((s.noting q).called q.execution).raised fault)) [.call q.execution]
        ((s.noting q).called q.execution)
  /-- One row was added, but the driver does not tell its identifier. -/
  | unidentified {q : Query} {result : QueryResult} {fault : Fault}
      (h : (s.driver.execute (.text q.sql) q.bindings).1 = .ok result)
      (hone : result.affectedRows.same (.int 1) = true)
      (hasked : (q.execution.after s.driver).lastInsertId.1 = .error fault) :
      RowEnds env id s (.ok q) (.error fault) [.call q.execution, .call .askInsertId]
        (((s.noting q).called q.execution).called .askInsertId)
  /-- One row was added. -/
  | added {q : Query} {result : QueryResult} {insertId : Value}
      (h : (s.driver.execute (.text q.sql) q.bindings).1 = .ok result)
      (hone : result.affectedRows.same (.int 1) = true)
      (hasked : (q.execution.after s.driver).lastInsertId.1 = .ok insertId) :
      RowEnds env id s (.ok q) (.ok insertId) [.call q.execution, .call .askInsertId]
        (((s.noting q).called q.execution).called .askInsertId)
  /-- The database has done anything else. -/
  | other {q : Query} {result : QueryResult} (h : (s.driver.execute (.text q.sql) q.bindings).1 = .ok result)
      (hother : result.affectedRows.same (.int 1) = false) :
      RowEnds env id s (.ok q) (.ok .null) [.call q.execution] ((s.noting q).called q.execution)

variable {made : Except Fault Query} {outcome : Except Fault Value} {ms : List Move}

namespace RowEnds

theorem standing (h : RowEnds env id s made outcome ms t) : Standing s t := by
  have hexecuted : ∀ q : Query, Standing s ((s.noting q).called q.execution) := fun q =>
    trans_of Standing (standing_noting s q) (standing_called (c := q.execution) _ trivial)
  have hasked : ∀ q : Query, Standing s (((s.noting q).called q.execution).called .askInsertId) := fun q =>
    trans_of Standing (hexecuted q) (standing_called (c := .askInsertId) _ trivial)
  cases h with
  | uncompiled => exact refl_of Standing s
  | unattendable => exact standing_noting s _
  | closed => exact standing_noting s _
  | rejected => exact hexecuted _
  | unidentified => exact hasked _
  | added => exact hasked _
  | other => exact hexecuted _

theorem course (h : RowEnds env id s made outcome ms t) : Course s ms t := by
  have hnoted : ∀ q : Query, Course s [] (s.noting q) := fun q => .still rfl rfl (.of_eq rfl)
  have hexecuted : ∀ q : Query, Course s [.call q.execution] ((s.noting q).called q.execution) := fun q =>
    (hnoted q).append (.called _ _)
  have hasked : ∀ q : Query, Course s [.call q.execution, .call .askInsertId]
      (((s.noting q).called q.execution).called .askInsertId) := fun q => (hexecuted q).append (.called _ _)
  cases h with
  | uncompiled => exact .refl s
  | unattendable => exact hnoted _
  | closed => exact hnoted _
  | rejected => exact hexecuted _
  | unidentified => exact hasked _
  | added => exact hasked _
  | other => exact hexecuted _

/-- The driver is asked for nothing but the statement and the identifier. -/
theorem isStatement (h : RowEnds env id s made outcome ms t) :
    ∀ m ∈ ms, ∃ c : DriverCall, m = .call c ∧ c.IsStatement := by
  have hexecuted : ∀ q : Query, ∀ m ∈ [Move.call q.execution], ∃ c : DriverCall, m = .call c ∧ c.IsStatement :=
    fun q => List.forall_mem_singleton.2 ⟨_, rfl, trivial⟩
  have hasked : ∀ q : Query, ∀ m ∈ [Move.call q.execution, .call .askInsertId],
      ∃ c : DriverCall, m = .call c ∧ c.IsStatement :=
    fun q => List.forall_mem_cons.2 ⟨⟨_, rfl, trivial⟩, List.forall_mem_singleton.2 ⟨_, rfl, trivial⟩⟩
  cases h with
  | uncompiled => exact nofun
  | unattendable => exact nofun
  | closed => exact nofun
  | rejected => exact hexecuted _
  | unidentified => exact hasked _
  | added => exact hasked _
  | other => exact hexecuted _

/-- A row that does not fail has been handed over with its statement. -/
theorem handed_of_ok {answer : Value} (h : RowEnds env id s made (.ok answer) ms t) :
    ∃ q, made = .ok q ∧ Move.handed ms = [(.text q.sql, q.bindings)] := by
  cases h with
  | added => exact ⟨_, rfl, rfl⟩
  | other => exact ⟨_, rfl, rfl⟩

end RowEnds

section Row

variable (hs : s.Hookless) {b : Builder} (hb : s.builders[id]? = some b) (row : Row)

include hs hb

/-- The tables decide whether an event fails, as long as nothing is declared. -/
theorem exec_fire_standing (env : Surroundings) (hst : Standing s t) (event : EventKind) (statement : Option Issued)
    (arguments : Value) :
    (fire id event statement arguments).exec env t =
      (if ∀ table ∈ s.tablesOf id, table.Attendable then .ok [] else .error .typeMismatch, t) := by
  have htables : t.tablesOf id = s.tablesOf id := by
    unfold tablesOf
    rw [hst.builders, hst.drafts]
  rw [exec_fire_hookless (hst.hookless hs) (hst.builders ▸ hb), htables]

/-- Behind the statement the identifier is asked for if one row was added. -/
theorem rowEnds_executed {q : Query} {result : QueryResult} (htables : ∀ table ∈ s.tablesOf id, table.Attendable)
    (hexecuted : (s.driver.execute (.text q.sql) q.bindings).1 = .ok result) (i : Issued) :
    ∃ outcome ms t, Act.exec (do
      let insertId ← if result.affectedRows.same (.int 1) then Act.driver fun d => d.lastInsertId else pure .null
      let _ ← fire id .afterInsert (some i) (.map [(.text "insert_id", insertId), timing])
      pure insertId) env ((s.noting q).called q.execution) = (outcome, t) ∧
      RowEnds env id s (.ok q) outcome ms t := by
  have hstanding : Standing s ((s.noting q).called q.execution) :=
    trans_of Standing (standing_noting s q) (standing_called (c := q.execution) _ trivial)
  cases hone : result.affectedRows.same (.int 1) with
  | false =>
      refine ⟨_, _, _, ?_, .other hexecuted hone⟩
      have hfire := exec_fire_standing hs hb env hstanding .afterInsert (some i)
        (.map [(.text "insert_id", .null), timing])
      rw [if_pos htables] at hfire
      rw [if_neg Bool.false_ne_true, exec_bind, exec_pure]
      dsimp only
      rw [exec_bind_ok hfire, exec_pure]
  | true =>
      have hask : (Act.driver Driver.lastInsertId).exec env ((s.noting q).called q.execution) =
          ((q.execution.after s.driver).lastInsertId.1, ((s.noting q).called q.execution).called .askInsertId) :=
        exec_driver _
      rw [if_pos rfl]
      cases hasked : (q.execution.after s.driver).lastInsertId.1 with
      | error fault =>
          rw [hasked] at hask
          exact ⟨_, _, _, exec_bind_error hask, .unidentified hexecuted hone hasked⟩
      | ok insertId =>
          rw [hasked] at hask
          have hfire := exec_fire_standing hs hb env
            (trans_of Standing hstanding (standing_called (c := .askInsertId) _ trivial)) .afterInsert (some i)
            (.map [(.text "insert_id", insertId), timing])
          rw [if_pos htables] at hfire
          refine ⟨_, _, _, ?_, .added hexecuted hone hasked⟩
          rw [exec_bind_ok hask, exec_bind_ok hfire, exec_pure]

/-- The insertion of a row ends in one of these ways. -/
theorem rowEnds_insertRow (env : Surroundings) (verb : InsertVerb) : ∃ outcome ms t,
    (insertRow id verb (.map row)).exec env s = (outcome, t) ∧
    RowEnds env id s (s.insertion env id verb row) outcome ms t := by
  have hcompile : (compile id (.insert verb (.map row))).exec env s = (s.insertion env id verb row, s) := by
    unfold insertion
    rw [exec_compile_insert hb]
  unfold insertRow
  cases hmade : s.insertion env id verb row with
  | error fault =>
      rw [hmade] at hcompile
      exact ⟨_, _, _, exec_bind_error (exec_bind_error hcompile), .uncompiled⟩
  | ok q =>
      rw [hmade] at hcompile
      have hprepare : (prepare id (.insert verb (.map row))).exec env s =
          (.ok (q.issued s.driver.hasEscapes), s.noting q) := exec_bind_ok hcompile
      have hfire := exec_fire_standing hs hb env (standing_noting s q) .beforeInsert
        (some (q.issued s.driver.hasEscapes)) .null
      rw [exec_bind_ok hprepare]
      by_cases htables : ∀ table ∈ s.tablesOf id, table.Attendable
      · rw [if_pos htables] at hfire
        rw [exec_bind_ok hfire]
        obtain ⟨fault, hclosed⟩ | ⟨-, -, hopen, -⟩ := requireOpen_cases env id (s.noting q)
        · have hrun : (Execute.run id (q.issued s.driver.hasEscapes)).exec env (s.noting q) =
              (.error fault, s.noting q) := exec_bind_error hclosed
          exact ⟨_, _, _, exec_bind_error hrun, .closed hclosed⟩
        · have hrun := Execution.exec_run_eq (i := q.issued s.driver.hasEscapes) hopen rfl
          change _ = ((s.driver.execute (.text q.sql) q.bindings).1.mapError _, (s.noting q).called q.execution) at hrun
          cases hexecuted : (s.driver.execute (.text q.sql) q.bindings).1 with
          | error fault =>
              rw [hexecuted] at hrun
              exact ⟨_, _, _, exec_bind_error hrun, .rejected hexecuted⟩
          | ok result =>
              rw [hexecuted] at hrun
              rw [exec_bind_ok hrun]
              exact rowEnds_executed hs hb htables hexecuted _
      · rw [if_neg htables] at hfire
        exact ⟨_, _, _, exec_bind_error hfire, .unattendable htables⟩

end Row

/-! ### All rows -/

/-- The rows are taken one after the other, up to the first that fails. -/
inductive RowsEnd (env : Surroundings) (id : Nat) (made : Row → Except Fault Query) :
    Session → List Row → Except Fault (List Value) → List Move → Session → Prop where
  | nil {s : Session} : RowsEnd env id made s [] (.ok []) [] s
  | fails {s t : Session} {row : Row} {rest : List Row} {fault : Fault}
      {ms : List Move} (h : RowEnds env id s (made row) (.error fault) ms t) :
      RowsEnd env id made s (row :: rest) (.error fault) ms t
  | cons {s t u : Session} {row : Row} {rest : List Row} {answer : Value}
      {outcome : Except Fault (List Value)} {ms ms' : List Move} (h : RowEnds env id s (made row) (.ok answer) ms t)
      (hrest : RowsEnd env id made t rest outcome ms' u) :
      RowsEnd env id made s (row :: rest) (outcome.map (answer :: ·)) (ms ++ ms') u

section Rows

variable {made : Row → Except Fault Query} {rows : List Row} {outcome : Except Fault (List Value)} {ms : List Move}

namespace RowsEnd

theorem standing (h : RowsEnd env id made s rows outcome ms t) : Standing s t := by
  induction h with
  | nil => exact refl_of Standing _
  | fails h => exact h.standing
  | cons h _ ih => exact trans_of Standing h.standing ih

theorem course (h : RowsEnd env id made s rows outcome ms t) : Course s ms t := by
  induction h with
  | nil => exact .refl _
  | fails h => exact h.course
  | cons h _ ih => exact h.course.append ih

theorem isStatement (h : RowsEnd env id made s rows outcome ms t) :
    ∀ m ∈ ms, ∃ c : DriverCall, m = .call c ∧ c.IsStatement := by
  induction h with
  | nil => exact nofun
  | fails h => exact h.isStatement
  | cons h _ ih => exact fun m hm => (List.mem_append.1 hm).elim (h.isStatement m) (ih m)

/-- If no row fails then there is one answer for each, and the statements of all rows are handed over in order. -/
theorem handed_of_ok {answers : List Value} (h : RowsEnd env id made s rows (.ok answers) ms t) :
    answers.length = rows.length ∧
      ∃ qs, rows.mapM made = .ok qs ∧ Move.handed ms = qs.map fun q => (.text q.sql, q.bindings) := by
  generalize houtcome : Except.ok answers = outcome at h
  induction h generalizing answers with
  | nil =>
      cases houtcome
      exact ⟨rfl, [], rfl, rfl⟩
  | fails h => cases houtcome
  | @cons s t u row rest answer outcome ms ms' h hrest ih =>
      cases outcome with
      | error fault => cases houtcome
      | ok others =>
          cases houtcome
          obtain ⟨hlength, qs, hqs, hhanded⟩ := ih rfl
          obtain ⟨q, hq, hfirst⟩ := h.handed_of_ok
          refine ⟨congrArg (· + 1) hlength, q :: qs, ?_, ?_⟩
          · rw [List.mapM_cons, hq, hqs]
            rfl
          · rw [Move.handed_append, hfirst, hhanded]
            rfl

/-- If a row fails then those in front of it have not, and those behind it are left alone. -/
theorem stops {fault : Fault} (h : RowsEnd env id made s rows (.error fault) ms t) :
    ∃ front row back answers r ms₁ ms₂, rows = front ++ row :: back ∧
      RowsEnd env id made s front (.ok answers) ms₁ r ∧ RowEnds env id r (made row) (.error fault) ms₂ t ∧
      ms = ms₁ ++ ms₂ := by
  generalize houtcome : Except.error fault = outcome at h
  induction h generalizing fault with
  | nil => cases houtcome
  | @fails s t row rest fault ms h =>
      cases houtcome
      exact ⟨[], row, rest, [], s, [], ms, rfl, .nil, h, rfl⟩
  | @cons s t u row rest answer outcome ms ms' h hrest ih =>
      cases outcome with
      | ok others => cases houtcome
      | error fault' =>
          cases houtcome
          obtain ⟨front, last, back, answers, r, ms₁, ms₂, rfl, hfront, hlast, rfl⟩ := ih rfl
          exact ⟨row :: front, last, back, answer :: answers, r, ms ++ ms₁, ms₂, rfl, .cons h hfront, hlast,
            (List.append_assoc _ _ _).symm⟩

end RowsEnd

/-- The rows of a batch end in that way. -/
theorem rowsEnd_insertAll (hs : s.Hookless) {b : Builder} (hb : s.builders[id]? = some b)
    (hmade : ∀ row, s.insertion env id verb row = made row) (rows : List Row) :
    ∃ outcome ms t, (insertAll verb id (rows.map Value.map)).exec env s = (outcome, t) ∧
      RowsEnd env id made s rows outcome ms t := by
  induction rows generalizing s with
  | nil => exact ⟨_, _, _, rfl, .nil⟩
  | cons row rest ih =>
      obtain ⟨outcome, ms, t, hrow, hends⟩ := rowEnds_insertRow hs hb row env verb
      rw [hmade] at hends
      have hfirst : (insert verb id (.map row)).exec env s = (outcome, t) := by
        rw [insert]
        exact hrow
      rw [List.map_cons, insertAll]
      cases outcome with
      | error fault => exact ⟨_, _, _, exec_bind_error hfirst, .fails hends⟩
      | ok answer =>
          have hst := hends.standing
          obtain ⟨others, ms', u, hrest, hothers⟩ := ih (hst.hookless hs) (hst.builders ▸ hb)
            fun row => (hst.insertion hb row).trans (hmade row)
          refine ⟨_, _, _, ?_, .cons hends hothers⟩
          rw [exec_bind_ok hfirst, exec_bind, hrest]
          cases others with
          | ok answers => rfl
          | error fault => rfl

end Rows

/-! ### The batch -/

/-- The rows of a batch, with the statements that they have: the course of their insertions, in which nothing but
statements is executed, and what it means if no row fails and if one does. -/
structure RowsRun (env : Surroundings) (id : Nat) (made : Row → Except Fault Query) (s : Session)
    (rows : List Row) (outcome : Except Fault (List Value)) (ms : List Move) (t : Session) :
    Prop where
  ends : RowsEnd env id made s rows outcome ms t
  course : Course s ms t
  isStatement : ∀ m ∈ ms, ∃ c : DriverCall, m = .call c ∧ c.IsStatement
  handed : ∀ answers, outcome = .ok answers → answers.length = rows.length ∧
    ∃ qs, rows.mapM made = .ok qs ∧ Move.handed ms = qs.map fun q => (.text q.sql, q.bindings)
  stops : ∀ fault, outcome = .error fault → ∃ front row back qs r ms', rows = front ++ row :: back ∧
    front.mapM made = .ok qs ∧ RowEnds env id r (made row) (.error fault) ms' t ∧
    Move.handed ms = (qs.map fun q => (.text q.sql, q.bindings)) ++ Move.handed ms'

section Batch

variable {made : Row → Except Fault Query} {rows : List Row} {outcome : Except Fault (List Value)}
  {ms : List Move}

theorem RowsEnd.rowsRun (h : RowsEnd env id made s rows outcome ms t) : RowsRun env id made s rows outcome ms t where
  ends := h
  course := h.course
  isStatement := h.isStatement
  handed := by
    rintro answers rfl
    exact h.handed_of_ok
  stops := by
    rintro fault rfl
    obtain ⟨front, row, back, answers, r, ms₁, ms₂, rfl, hfront, hrow, rfl⟩ := h.stops
    obtain ⟨-, qs, hqs, hhanded⟩ := hfront.handed_of_ok
    exact ⟨front, row, back, qs, r, ms₂, rfl, hqs, hrow, by rw [Move.handed_append, hhanded]⟩

theorem insert_items {data : Value} {items : List Value} (h : data.items? = some items) :
    insert verb id data = batch id fun builder => insertAll verb builder items := by
  cases data with
  | list others =>
      cases h
      rw [insert]
  | tuple others =>
      cases h
      rw [insert]
  | _ => cases h

/-- The copy that a transaction works on has the same statements for rows as the builder. -/
theorem insertion_begun {builder : Nat} (hs : s.Linked) (hid : id < s.builders.size)
    (hcopy : (builderFor id s.scopes.size).exec env s.opened = (.ok builder, t)) (row : Row) :
    (t.called .begin).insertion env builder verb row = s.insertion env id verb row := by
  have hcopied : s.opened.Copied t id builder := copied_builderFor (hs.of_eq rfl rfl) hid hcopy
  obtain ⟨copy, hcopy, -⟩ := hcopied.fresh
  have hmirrors : Resolve.opening (t.declared builder) = Resolve.opening (t.declared id) :=
    hcopied.mirrors.read Resolve.opening fun _ _ => rfl
  have hdeclared : t.declared id = s.declared id := hcopied.keeping.declared_of_lt (hs.of_eq rfl rfl) hid
  have hengine : (t.called .begin).driver.engine = s.driver.engine :=
    (DriverCall.engine_after_begin t.driver).trans hcopied.keeping.engine
  have hsame : (t.called .begin).declared builder = t.declared builder := rfl
  have hcopy' : (t.called .begin).builders[builder]? = some copy := hcopy
  unfold insertion
  rw [exec_compile_insert hcopy', exec_compile_insert (Array.getElem?_eq_getElem hid), hsame, hmirrors, hdeclared,
    hengine]

/-- The rows leave the transaction open in which they are inserted. -/
theorem RowsEnd.ready {scope builder : Nat} (h : RowsEnd env builder made s rows outcome ms t)
    (hs : Ready scope builder s) : Ready scope builder t := by
  have hst := h.standing
  have hwork : ∀ m ∈ ms, m.Work := by
    intro m hm
    obtain ⟨c, rfl, hc⟩ := h.isStatement m hm
    exact hc
  obtain ⟨b, hb, hrole⟩ := hs.inScope
  exact {
    inScope := ⟨b, hst.builders ▸ hb, hrole⟩
    isOpen := (congrArg (·[scope]?) hst.scopes).trans hs.isOpen
    flag := (Courses.flag ⟨ms, hwork, h.course⟩).trans hs.flag
    sound := h.course.sound hs.sound }

/-- Outside a transaction a batch has one of its own. -/
theorem exec_batch_out {script : Nat → Act (List Value)} (hout : s.driver.inTransaction = false) :
    (batch id script).exec env s = (do pure (.list (← run id script).2) : Act Value).exec env s := by
  unfold batch
  rw [exec_bind, exec_get]
  dsimp only
  rw [if_neg (Bool.eq_false_iff.1 hout)]

theorem exec_batch_in {script : Nat → Act (List Value)} (hin : s.driver.inTransaction = true) :
    (batch id script).exec env s = (do pure (.list (← script id)) : Act Value).exec env s := by
  unfold batch
  rw [exec_bind, exec_get]
  dsimp only
  rw [if_pos hin]

/-- Where a transaction begins, its builder is a new one with the same statements for rows. -/
theorem begins (hs : s.Hookless) (hlinked : s.Linked) (hnests : s.Nests env.depth id)
    (hout : s.driver.inTransaction = false) (hbegin : DriverCall.begin.Succeeds s.driver) : ∃ builder t,
      Starts env id s builder t ∧ Ready s.scopes.size builder t ∧ Course s [.opened, .call .begin] t ∧ t.Hookless ∧
      ∀ verb row, t.insertion env builder verb row = s.insertion env id verb row := by
  have hopened : s.opened.Linked := hlinked.of_eq rfl rfl
  have hnested : s.opened.Nests env.depth id := hnests.keeping hlinked (.of_eq rfl rfl rfl rfl rfl rfl)
  obtain ⟨builder, r, hcopy⟩ := exec_builderFor_of_nests hopened hnested s.scopes.size
  obtain ⟨hdriver, -, hopen, hbuilder⟩ := copied hcopy
  have hbegin' : DriverCall.begin.Succeeds r.driver := hdriver ▸ hbegin
  have hbegun : (Execute.reported Driver.begin).exec env r = (.ok (), r.called .begin) := by
    have hcall := @Execute.exec_reported_call env Driver.begin .begin (fun _ => rfl) r
    rw [show (DriverCall.begin.on r.driver).1 = .ok () from hbegin'] at hcall
    exact hcall
  have hhooks : (r.called .begin).hooks = s.hooks := ((Keeps.bare_builderFor _ _).of_exec hcopy).hooks
  have hquiet : Course s.opened [] r := .of_quiet ((quiet_builderFor id _).of_exec hcopy)
  refine ⟨builder, r.called .begin, .begun hcopy (hdriver ▸ hout) hbegun, ready_called hbegin' hopen hbuilder,
    ((Course.opened s).append hquiet).append (.called r .begin), fun event table => ?_,
    fun verb row => insertion_begun hlinked hnests.lt hcopy row⟩
  rw [hhooks]
  exact hs event table

/-- A batch is inserted as a whole or not at all. Outside a transaction the driver begins one, gets the statements of
the rows in order, and commits behind the last one; if a row fails, those behind it are left alone, and the driver rolls
back once. In a transaction there is nothing but the statements of the rows. -/
theorem insert_batch_whole {data : Value} (hs : s.Hookless) (hlinked : s.Linked) (hid : id < s.builders.size)
    (hdata : data.items? = some (rows.map Value.map)) :
    (s.driver.inTransaction = false → s.Nests env.depth id → DriverCall.begin.Succeeds s.driver →
      ∃ builder t outcome ms v, Course s [.opened, .call .begin] t ∧
        RowsRun env builder (s.insertion env id verb) t rows outcome ms v ∧
        (∀ answers, outcome = .ok answers → DriverCall.commit.Succeeds v.driver → ∃ u,
          ((BuilderCall.insert verb data).perform id).exec env s = (.ok (.list answers), u) ∧
          Course s ([.opened, .call .begin] ++ ms ++ [.ended s.scopes.size .committed]) u) ∧
        ∀ fault, outcome = .error fault → DriverCall.rollback.Succeeds v.driver → ∃ u,
          ((BuilderCall.insert verb data).perform id).exec env s = (.error fault, u) ∧
          Course s ([.opened, .call .begin] ++ ms ++ [.call .rollback]) u) ∧
    (s.driver.inTransaction = true → ∃ outcome ms v,
      RowsRun env id (s.insertion env id verb) s rows outcome ms v ∧
      ((BuilderCall.insert verb data).perform id).exec env s = (outcome.map Value.list, v)) := by
  let script (builder : Nat) : Act (List Value) := insertAll verb builder (rows.map Value.map)
  rw [BuilderCall.perform, insert_items hdata]
  constructor
  · intro hout hnests hbegin
    obtain ⟨builder, t, hstarts, hready, hcourse, ht, hmade⟩ := begins hs hlinked hnests hout hbegin
    obtain ⟨b, hb, -⟩ := hready.inScope
    obtain ⟨outcome, ms, v, hrows, hends⟩ := rowsEnd_insertAll ht hb (hmade verb) rows
    have hleft := hends.ready hready
    have hscript : (script builder).exec env t = (outcome, v) := hrows
    have hrun : (run id script).exec env s = (begun s.scopes.size builder script).exec env t :=
      exec_run_of_starts hstarts
    rw [exec_batch_out hout]
    refine ⟨builder, t, outcome, ms, v, hcourse, hends.rowsRun, ?_, ?_⟩
    · rintro answers rfl hcommit
      have hdone := begun_commits hscript hleft.inScope hleft.isOpen hleft.flag hcommit
      refine ⟨_, exec_bind_ok (hrun.trans hdone), (hcourse.append hends.course).append ?_⟩
      exact .ended .committed (unended_of_open hleft.isOpen) hcommit
    · rintro fault rfl hrollback
      have hdone := begun_rolls_back hscript hleft.isOpen hleft.flag hrollback
      exact ⟨_, exec_bind_error (hrun.trans hdone), (hcourse.append hends.course).append (.called v .rollback)⟩
  · intro hin
    have hmade : ∀ row, s.insertion env id verb row = s.insertion env id verb row := fun _ => rfl
    obtain ⟨outcome, ms, v, hrows, hends⟩ := rowsEnd_insertAll hs (Array.getElem?_eq_getElem hid) hmade rows
    refine ⟨outcome, ms, v, hends.rowsRun, ?_⟩
    rw [exec_batch_in hin, exec_bind, hrows]
    cases outcome with
    | ok answers => rfl
    | error fault => rfl

end Batch

/-- Three rows, of which the second has a column that cannot be written. -/
def threeRows : List Row :=
  [[(.text "name", .text "Ada")], [(.group 0, .text "Ben")], [(.text "name", .text "Cleo")]]

/-- The second row fails, so that the first one is rolled back. -/
theorem insert_batch_whole_uncompiled : ∃ builder t ms v u fault,
    Course joined [.opened, .call .begin] t ∧
    RowsRun (.scriptless 2) builder (joined.insertion (.scriptless 2) 0 .replace) t threeRows (.error fault) ms v ∧
    ((BuilderCall.insert .replace (.tuple (threeRows.map Value.map))).perform 0).exec (.scriptless 2) joined =
      (.error fault, u) ∧
    Course joined ([.opened, .call .begin] ++ ms ++ [.call .rollback]) u := by
  have hnests : joined.Nests 2 0 := by
    refine ⟨by decide, fun j hj k hk => ?_⟩
    obtain rfl := List.mem_singleton.1 hj
    cases hk
    exact ⟨by decide, fun j hj => nomatch hj⟩
  obtain ⟨hout, -⟩ := @insert_batch_whole (.scriptless 2) joined 0 .replace threeRows
    (.tuple (threeRows.map Value.map)) (hookless_of_nil rfl) linked_joined (by decide) rfl
  obtain ⟨builder, t, outcome, ms, v, hbegun, hrows, -, hfails⟩ := hout rfl hnests rfl
  cases outcome with
  | ok answers =>
      obtain ⟨-, qs, hmade, -⟩ := hrows.handed answers rfl
      have hnone : (threeRows.mapM (joined.insertion (.scriptless 2) 0 .replace)).isOk = false := by
        decide +kernel
      rw [hmade] at hnone
      cases hnone
  | error fault =>
      have hrollback : DriverCall.rollback.Succeeds v.driver := by
        have hwork : ∀ m ∈ ms, m.Work := fun m hm => by
          obtain ⟨c, rfl, hc⟩ := hrows.isStatement m hm
          exact hc
        rw [show v.driver = (t.stage.run ms).driver from congrArg Stage.driver hrows.course.run.1]
        have hdriver : t.stage.driver = .scripted ⟨.mysql, [], none, none, none, 0, .null, true⟩ := by
          rw [hbegun.run.1]
          rfl
        exact Stage.rollback_of_scripted hdriver rfl ms hwork
      obtain ⟨u, hexec, hcourse⟩ := hfails fault rfl hrollback
      exact ⟨builder, t, ms, v, u, fault, hbegun, hrows, hexec, hcourse⟩

end Transaction

end SqlBuilder
