import SqlBuilder.Proofs.Session.Firing
import SqlBuilder.Proofs.Session.HandedOver
import SqlBuilder.Proofs.Session.Mirroring

/-!
The course of an execution. If the statement cannot be made nothing else happens. Otherwise the hooks in front of it
run, the statement is handed to the driver, and if it has succeeded the hooks behind it run. An insertion of one row
asks for the generated identifier before that. Groups could come in between, since they run wherever the statement is
made; a builder without groups depends on nothing but what it is made of.
-/

namespace SqlBuilder

open Act Session

/-! ### What has no part in an execution -/

namespace Session

/-- The connection has not been used, and no other statement has been noted. -/
structure SameConnection (s t : Session) : Prop where
  driver : t.driver = s.driver
  journal : t.journal = s.journal
  lastStatement : t.lastStatement = s.lastStatement

/-- All that the statement of the builder is made of is as it was, and so are the hooks. No script is lost. -/
structure Undisturbed (id : Nat) (s t : Session) : Prop where
  parts : (s.footprint id).Sustains s t
  hooks : t.hooks = s.hooks
  scripts : ∀ (n : Nat) (script : Script), s.scripts[n]? = some script → t.scripts[n]? = some script

/-- The builder is as it was besides, and so are the scopes. -/
structure Upheld (id : Nat) (s t : Session) : Prop extends Undisturbed id s t where
  builder : t.builders[id]? = s.builders[id]?
  scopes : t.scopes = s.scopes

variable {env : Surroundings} {id : Nat} {s t u : Session}

theorem SameConnection.refl (s : Session) : s.SameConnection s := ⟨rfl, rfl, rfl⟩

theorem SameConnection.trans (h : s.SameConnection t) (h' : t.SameConnection u) : s.SameConnection u :=
  ⟨h'.driver.trans h.driver, h'.journal.trans h.journal, h'.lastStatement.trans h.lastStatement⟩

namespace Undisturbed

theorem refl (id : Nat) (s : Session) : s.Undisturbed id s := ⟨.refl _ _, rfl, fun _ _ h => h⟩

theorem exists_builder (h : s.Undisturbed id t) {b : Builder} (hb : s.builders[id]? = some b) :
    ∃ b', t.builders[id]? = some b' ∧ b'.draft = b.draft := h.parts.builders id (.inl (s.mem_footprint id)) b hb

theorem tablesOf (h : s.Undisturbed id t) {b : Builder} (hb : s.builders[id]? = some b) :
    t.tablesOf id = s.tablesOf id := by
  obtain ⟨b', hb', hdraft⟩ := h.exists_builder hb
  rw [tablesOf_eq hb, tablesOf_eq hb', hdraft, h.parts.drafts b.draft ⟨id, .refl, id, b, .inl rfl, hb, rfl⟩]

end Undisturbed

namespace Upheld

theorem refl (id : Nat) (s : Session) : s.Upheld id s := ⟨.refl id s, rfl, rfl⟩

/-- The connection has no part in it, as long as it stays one for its engine. -/
theorem passed (h : s.Upheld id t) {driver : Driver} (hengine : driver.engine = t.driver.engine) (journal : List Entry)
    (last : Option Issued) : s.Upheld id { t with driver, journal, lastStatement := last } :=
  ⟨⟨⟨h.parts.drafts, h.parts.builders, hengine.trans h.parts.engine⟩, h.hooks, h.scripts⟩, h.builder, h.scopes⟩

/-- A builder that may execute still may. -/
theorem isOpen (h : s.Upheld id t) (hopen : (Execute.requireOpen id).exec env s = (.ok (), s)) :
    (Execute.requireOpen id).exec env t = (.ok (), t) := by
  obtain ⟨fault, hstops⟩ | ⟨b, hb, -⟩ := Execute.requireOpen_cases env id s
  · rw [hopen] at hstops
    cases hstops
  · rw [Execute.exec_requireOpen_eq hb (h.builder.trans hb) rfl h.scopes, hopen]

end Upheld

end Session

namespace Execution

open Execute

def after : Execution → EventKind
  | select => .afterSelect
  | insert _ _ => .afterInsert
  | update _ => .afterUpdate
  | delete _ => .afterDelete
  | query _ _ => .afterQuery

/-- The statement, before it is noted as the last one. -/
def issue (id : Nat) : Execution → Act Issued
  | select => do Act.issued (← compile id .select)
  | insert verb entries => do Act.issued (← compile id (.insert verb (.map entries)))
  | update data => do Act.issued (← compile id (.update data))
  | delete columns => do Act.issued (← compile id (.delete columns))
  | query sql values => do
    let values ← Act.lift (itemsOf values)
    pure ⟨sql, values, (← get).driver.hasEscapes⟩

/-- The generated identifier is asked for if one row was inserted. -/
def asks (result : QueryResult) : Execution → Bool
  | insert _ _ => result.affectedRows.same (.int 1)
  | _ => false

/-- The generated identifier as the driver gives it, or nothing if it is not asked for. -/
def identify (result : QueryResult) (d : Driver) (x : Execution) : Except Fault Value × Driver × List WireEntry :=
  if x.asks result then d.lastInsertId else (.ok .null, d, [])

/-- The driver is asked for the generated identifier, or it is left alone. -/
def ask (result : QueryResult) (x : Execution) : Act Value :=
  if x.asks result then Act.driver Driver.lastInsertId else pure .null

def told (id : Nat) (i : Issued) (x : Execution) : HookCall := ⟨x.before, some i, id, []⟩

/-- The further arguments of the hooks behind the statement. -/
def outcomeArguments (insertId : Value) : Execution → List (Value × Value)
  | insert _ _ => [(.text "insert_id", insertId), timing]
  | _ => [timing]

def toldAfter (id : Nat) (i : Issued) (insertId : Value) (x : Execution) : HookCall :=
  ⟨x.after, some i, id, x.outcomeArguments insertId⟩

/-- What the call gives, and a verbatim statement leaves for the next fetch. -/
def answer (id : Nat) (result : QueryResult) (insertId : Value) : Execution → Act Value
  | select => do
    let b ← Act.builder id
    pure (.list (← objectsOf b.factory result.rows))
  | insert _ _ => pure insertId
  | update _ => pure result.toValue
  | delete _ => pure result.toValue
  | query _ _ => do
    Act.modifyBuilder id fun b => { b with pending := some result }
    Act.builderValue id

variable {env : Surroundings} {id : Nat} {x : Execution} {i : Issued} {s t : Session}

/-! ### The parts of an execution -/

theorem issue_eq {request : StatementRequest} (hx : x.request? = some request) (id : Nat) :
    x.issue id = (do Act.issued (← compile id request)) := by
  cases x <;> cases hx <;> rfl

theorem make_eq (id : Nat) (x : Execution) : x.make id = (do
    let i ← x.issue id
    remember i
    pure i) := by
  cases x <;> simp only [make, issue, prepare, bind_assoc, pure_bind]

theorem conclude_eq (id : Nat) (i : Issued) (result : QueryResult) (x : Execution) :
    x.conclude id i result = (do
      let insertId ← x.ask result
      let _ ← fire id x.after (some i) (.map (x.outcomeArguments insertId))
      x.answer id result insertId) := by
  cases x with
  | insert verb entries =>
      unfold conclude ask asks
      dsimp only
      split <;> rfl
  | _ => rfl

theorem argumentsOf_outcome (insertId : Value) (x : Execution) :
    argumentsOf (.map (x.outcomeArguments insertId)) = .ok (x.outcomeArguments insertId) := by
  cases x <;> rfl

theorem exec_run_eq {text : String} (hopen : (requireOpen id).exec env t = (.ok (), t))
    (hwritten : i.sql.written = .ok text) : (run id i).exec env t =
      ((t.driver.execute i.sql i.bindings).1.mapError (t.called (.execute i.sql i.bindings)).raised,
        t.called (.execute i.sql i.bindings)) := by
  have hitems : (Act.lift (itemsOf (.tuple i.bindings))).exec env t = (.ok i.bindings, t) := exec_lift _
  unfold run statement
  rw [exec_bind_ok hopen, exec_bind_ok hitems, exec_bind, exec_reported, hwritten]
  dsimp only
  cases hexecute : (t.driver.execute i.sql i.bindings).1 with
  | error fault => rfl
  | ok result => rfl

/-- Asking for the generated identifier is a call of the driver. -/
theorem exec_identify (env : Surroundings) (result : QueryResult) (x : Execution) (s : Session) :
    (x.ask result).exec env s = ((x.identify result s.driver).1, { s with
        driver := (x.identify result s.driver).2.1
        journal := s.journal ++ (x.identify result s.driver).2.2.map Entry.wire }) := by
  unfold ask identify
  cases x.asks result with
  | true =>
      rw [if_pos rfl, if_pos rfl]
      exact exec_driver _
  | false =>
      rw [if_neg Bool.false_ne_true, if_neg Bool.false_ne_true, exec_pure]
      simp only [List.map_nil, List.append_nil]

/-- The answer is worked out without the driver. Only the objects of a selection may not come about. -/
theorem exec_answer (result : QueryResult) (insertId : Value) (x : Execution) {b : Builder}
    (hb : s.builders[id]? = some b) : ∃ outcome u, (x.answer id result insertId).exec env s = (outcome, u) ∧
      u.driver = s.driver ∧ u.journal = s.journal ∧ (x ≠ .select → ∃ v, outcome = .ok v) := by
  cases x with
  | select =>
      have hobjects : ∃ outcome, (objectsOf b.factory result.rows).exec env s = (outcome, s) := by
        unfold objectsOf
        split
        · exact ⟨_, rfl⟩
        · exact ⟨_, exec_lift _⟩
      obtain ⟨outcome, hobjects⟩ := hobjects
      refine ⟨outcome.map Value.list, s, ?_, rfl, rfl, fun hx => absurd rfl hx⟩
      unfold answer
      rw [exec_bind_ok (exec_builder_of_some hb), exec_bind, hobjects]
      cases outcome <;> rfl
  | query sql values =>
      let t : Session :=
        { s with builders := s.builders.modify id fun b => { b with pending := some result } }
      have ht : t.builders[id]? = some { b with pending := some result } := by
        rw [Array.getElem?_modify, if_pos rfl, hb]
        rfl
      refine ⟨.ok (.builder b.role.kind id), t, ?_, rfl, rfl, fun _ => ⟨_, rfl⟩⟩
      have hkept : (Act.modifyBuilder id fun b => { b with pending := some result }).exec env s = (.ok ⟨⟩, t) :=
        exec_modify env s _
      unfold answer
      rw [exec_bind_ok hkept, exec_builderValue ht]
  | _ => exact ⟨_, s, rfl, rfl, rfl, fun _ => ⟨_, rfl⟩⟩

/-! ### Nothing but the hooks and the statement -/

/-- The builder may execute, and a selection finds no pending result. In the states of a kind, which no statement leads
out of, the builder is as it was, and each group that it is made of comes to the same without the connection. -/
structure Calm (env : Surroundings) (id : Nat) (x : Execution) (s : Session) (K : Session → Prop) : Prop where
  linked : s.Linked
  isOpen : (requireOpen id).exec env s = (.ok (), s)
  idle : x = .select → ∀ b, s.builders[id]? = some b → b.pending = none
  isTable : ∀ table ∈ s.tablesOf id, table.IsTable
  /-- SQL that is given can be written. -/
  written : ∀ sql values, x = .query sql values → ∃ text, sql.written = .ok text
  start : K s
  upheld : ∀ t, K t → s.Upheld id t
  passed : ∀ t driver journal last, K t → driver.engine = t.driver.engine →
    K { t with driver, journal, lastStatement := last }
  groups : ∀ n ∈ (s.footprint id).drafts, ∀ c ∈ (s.drafts[n]?.getD {}).conditions, ∀ script, c.key = .group script →
    ∀ depth, ∃ outcome, ∀ t, K t →
      ∃ u, (Resolve.members depth script).exec env t = (outcome, u) ∧ K u ∧ t.SameConnection u

/-- How an execution ends behind the hooks in front of it, and what the journal then tells of it. -/
inductive Ends (id : Nat) (i : Issued) (x : Execution) (s : Session) (ended : Except Fault Value) (t : Session) :
    List Entry → Prop where
  /-- The driver has failed. -/
  | failed {fault : Fault} {d : Driver} {wires : List WireEntry}
      (hexecuted : s.driver.execute i.sql i.bindings = (.error fault, d, wires))
      (hended : ended = .error (t.raised fault)) (hdriver : t.driver = d) :
      x.Ends id i s ended t (wires.map .wire)
  /-- The driver does not tell the identifier that it has generated. -/
  | untold {result : QueryResult} {fault : Fault} {d d' : Driver} {wires wires' : List WireEntry}
      (hexecuted : s.driver.execute i.sql i.bindings = (.ok result, d, wires))
      (hasked : x.identify result d = (.error fault, d', wires'))
      (hended : ended = .error fault) (hdriver : t.driver = d') :
      x.Ends id i s ended t (wires.map .wire ++ wires'.map .wire)
  /-- The statement has succeeded, and the hooks behind it have run. -/
  | done {result : QueryResult} {insertId : Value} {d d' : Driver} {wires wires' : List WireEntry}
      {notes : List Entry} (hexecuted : s.driver.execute i.sql i.bindings = (.ok result, d, wires))
      (hasked : x.identify result d = (.ok insertId, d', wires'))
      (hnoted : Noted (x.toldAfter id i insertId) (s.hooks.running x.after (s.tablesOf id)) notes)
      (hended : x ≠ .select → ∃ v, ended = .ok v) (hdriver : t.driver = d') :
      x.Ends id i s ended t (wires.map .wire ++ wires'.map .wire ++ notes)

namespace Calm

variable {K : Session → Prop}

/-- A builder without groups is calm wherever it is upheld. -/
theorem of_groupless (hs : s.Linked) (hopen : (requireOpen id).exec env s = (.ok (), s))
    (hidle : x = .select → ∀ b, s.builders[id]? = some b → b.pending = none)
    (htables : ∀ table ∈ s.tablesOf id, table.IsTable)
    (hwritten : ∀ sql values, x = .query sql values → ∃ text, sql.written = .ok text)
    (hgroups : s.Groupless id) : Calm env id x s (s.Upheld id) where
  linked := hs
  isOpen := hopen
  idle := hidle
  isTable := htables
  written := hwritten
  start := .refl id s
  upheld _ ht := ht
  passed _ _ journal last ht hengine := ht.passed hengine journal last
  groups n hn c hc script hkey := absurd hkey (hgroups n hn c hc script)

section States

variable (h : Calm env id x s K)

include h

theorem exists_builder : ∃ b, s.builders[id]? = some b := by
  obtain ⟨fault, hstops⟩ | ⟨b, hb, -⟩ := requireOpen_cases env id s
  · rw [h.isOpen] at hstops
    cases hstops
  · exact ⟨b, hb⟩

theorem builder (ht : K t) : ∃ b, t.builders[id]? = some b := by
  obtain ⟨b, hb⟩ := h.exists_builder
  exact ⟨b, ((h.upheld t ht).builder).trans hb⟩

theorem tablesOf (ht : K t) : t.tablesOf id = s.tablesOf id := by
  obtain ⟨b, hb⟩ := h.exists_builder
  exact (h.upheld t ht).tablesOf hb

theorem called {c : DriverCall} (hc : c.IsStatement) (ht : K t) : K (t.called c) :=
  h.passed t _ _ t.lastStatement ht (DriverCall.engine_after_statement hc)

/-! ### The statement is made -/

theorem steady {P : Session → Prop} (hK : ∀ t, P t → K t) (hP : ∀ t u, P t → K u → t.SameConnection u → P u) :
    (s.footprint id).Steady env P s := by
  intro n hn c hc script hkey depth
  obtain ⟨outcome, houtcome⟩ := h.groups n hn c hc script hkey depth
  refine ⟨outcome, fun t ht => ?_⟩
  obtain ⟨u, hexec, hu, hsame⟩ := houtcome t (hK t ht)
  exact ⟨u, hexec, hP t u ht hu hsame⟩

/-- Wherever the builder is compiled, it compiles to the same and does not use the connection. -/
theorem settled_compile (ht : K t) (request : StatementRequest) :
    Settled (fun u => K u ∧ t.SameConnection u) env (compile id request) ((compile id request).exec env s).1 := by
  obtain ⟨b, hb⟩ := h.exists_builder
  have hid := (Array.getElem?_eq_some_iff.1 hb).1
  have hsettled : ∀ P : Session → Prop, (∀ t, P t → K t) → (∀ t u, P t → K u → t.SameConnection u → P u) →
      ∃ outcome, Settled P env (compile id request) outcome := fun P hK hP =>
    h.linked.settled_compile hid (fun t ht => (h.upheld t (hK t ht)).parts) (h.steady hK hP) request
  obtain ⟨outcome, hall⟩ := hsettled K (fun _ hu => hu) fun _ _ _ hv _ => hv
  obtain ⟨outcome', hsame⟩ := hsettled (fun u => K u ∧ t.SameConnection u) (fun _ hu => hu.1)
    fun _ _ hu hv huv => ⟨hv, hu.2.trans huv⟩
  exact hall.transfer hsame h.start ht ⟨ht, .refl t⟩

/-- On the same connection the statement is the same. -/
theorem exec_issue (ht : K t) (hdriver : t.driver = s.driver) : ∃ u,
    (x.issue id).exec env t = (((x.issue id).exec env s).1, u) ∧ K u ∧ t.SameConnection u := by
  cases hx : x.request? with
  | none =>
      cases x with
      | query sql values =>
          refine ⟨t, ?_, ht, .refl t⟩
          unfold issue
          rw [exec_bind, exec_bind, exec_lift, exec_lift]
          cases itemsOf values with
          | error fault => rfl
          | ok values =>
              change (Except.ok (⟨sql, values, t.driver.hasEscapes⟩ : Issued), t) = _
              rw [hdriver]
              rfl
      | _ => cases hx
  | some request =>
      obtain ⟨u, hu, hKu, hsame⟩ := h.settled_compile ht request t ⟨ht, .refl t⟩
      obtain ⟨v, hv, -, hsame'⟩ := h.settled_compile h.start request s ⟨h.start, .refl s⟩
      have hissued : ∀ q w, (Act.issued q).exec env w = (.ok (q.issued w.driver.hasEscapes), w) := fun _ _ => rfl
      refine ⟨u, ?_, hKu, hsame⟩
      rw [issue_eq hx]
      cases houtcome : ((compile id request).exec env s).1 with
      | error fault =>
          rw [houtcome] at hu hv
          rw [exec_bind_error hu, exec_bind_error hv]
      | ok q =>
          rw [houtcome] at hu hv
          rw [exec_bind_ok hu, exec_bind_ok hv, hissued, hissued, hsame.driver, hdriver, hsame'.driver]

/-- A statement that is not made leaves no trace. -/
theorem exec_make_error {fault : Fault} (hissue : (x.issue id).exec env s = (.error fault, u)) : ∃ t,
    (x.make id).exec env s = (.error fault, t) ∧ s.SameConnection t := by
  obtain ⟨t, ht, -, hsame⟩ := h.exec_issue h.start rfl
  obtain rfl : u = t := congrArg Prod.snd (hissue.symm.trans ht)
  rw [make_eq, exec_bind_error hissue]
  exact ⟨u, rfl, hsame⟩

variable (hissue : (x.issue id).exec env s = (.ok i, u))

include hissue

/-- The text of a statement that has been made. -/
theorem text : ∃ text, i.sql.written = .ok text := by
  cases x with
  | query sql values =>
      obtain ⟨items, v, -, hissue⟩ := exec_bind_eq_ok hissue
      cases hissue
      exact h.written sql values rfl
  | _ =>
      obtain ⟨q, v, -, hissue⟩ := exec_bind_eq_ok hissue
      cases hissue
      exact ⟨q.sql, rfl⟩

theorem exec_make (ht : K t) (hdriver : t.driver = s.driver) : ∃ u,
    (x.make id).exec env t = (.ok i, u) ∧ K u ∧ u.driver = s.driver ∧ u.journal = t.journal := by
  obtain ⟨v, hv, hKv, hsame⟩ := h.exec_issue ht hdriver
  rw [hissue] at hv
  have hnoted : (remember i).exec env v = (.ok ⟨⟩, { v with lastStatement := some i }) := exec_modify env v _
  rw [make_eq, exec_bind_ok hv, exec_bind_ok hnoted]
  exact ⟨_, rfl, h.passed v v.driver v.journal (some i) hKv rfl, hsame.driver.trans hdriver, hsame.journal⟩

/-- Behind the hooks a selection is made again, to the same effect. -/
theorem exec_remake (ht : K t) (hdriver : t.driver = s.driver) : ∃ u,
    (x.remake id i).exec env t = (.ok i, u) ∧ K u ∧ u.driver = s.driver ∧ u.journal = t.journal := by
  cases x with
  | select => exact h.exec_make hissue ht hdriver
  | _ => exact ⟨t, rfl, ht, hdriver, rfl⟩

end States

/-- Asking for the generated identifier is a call of the driver, or nothing at all. -/
theorem identified (h : Calm env id x s K) (ht : K t) (result : QueryResult) :
    K { t with
      driver := (x.identify result t.driver).2.1
      journal := t.journal ++ (x.identify result t.driver).2.2.map Entry.wire } := by
  unfold identify
  cases x.asks result with
  | true => exact h.called (c := .askInsertId) trivial ht
  | false =>
      rw [if_neg Bool.false_ne_true]
      simpa only [List.map_nil, List.append_nil] using ht

section Hooks

variable (hnotes : env.Notes) (h : Calm env id x s K) (hissue : (x.issue id).exec env s = (.ok i, u))
  (hbefore : ∀ hook ∈ s.hooks.running x.before (s.tablesOf id), Harmless env K id hook)

include hnotes h hissue

/-- A hook in front of the statement that fails ends the execution. -/
theorem exec_call_raises {front back : List Value} {hook : Value}
    (htold : s.hooks.running x.before (s.tablesOf id) = front ++ hook :: back)
    (hharmless : ∀ other ∈ front, Harmless env K id other) (hraises : Raises env K id hook) : ∃ fault t notes v,
    (x.call.perform id).exec env s = (.error fault, t) ∧ t.driver = s.driver ∧ t.journal = s.journal ++ notes ∧
      Noted (x.told id i) (front ++ [hook]) notes ∧ K v ∧
      (runHook hook (x.told id i)).exec env v = (.error fault, t) := by
  obtain ⟨u, hmake, hu, hdriver, hjournal⟩ := h.exec_make hissue h.start rfl
  obtain ⟨b, hb⟩ := h.builder hu
  obtain ⟨fault, t, notes, v, hfire, htdriver, htjournal, hrest⟩ :=
    exec_fire_raises hnotes (rfl : argumentsOf .null = .ok []) (fun t ht => (h.upheld t ht).hooks) h.isTable hu
      (h.tablesOf hu) hb htold
      hharmless hraises
  have hready : (x.ready id).exec env s = (.error fault, t) := by
    unfold ready
    rw [exec_bind_ok hmake]
    exact exec_bind_error hfire
  refine ⟨fault, t, notes, v, ?_, htdriver.trans hdriver, htjournal.trans (by rw [hjournal]), hrest⟩
  rw [perform_call, exec_bind_error hready]

include hbefore

/-- Behind harmless hooks the execution comes to hand its statement over. -/
theorem reaches : ∃ t notes, x.Reaches env id s i t ∧ K t ∧ t.driver = s.driver ∧ t.journal = s.journal ++ notes ∧
    Noted (x.told id i) (s.hooks.running x.before (s.tablesOf id)) notes := by
  obtain ⟨u, hmake, hu, hudriver, hujournal⟩ := h.exec_make hissue h.start rfl
  obtain ⟨b, hb⟩ := h.builder hu
  obtain ⟨answers, v, notes, hfire, hv, hvdriver, hvjournal, hnoted⟩ :=
    exec_fire hnotes (rfl : argumentsOf .null = .ok []) (fun t ht => (h.upheld t ht).hooks) h.isTable hu
      (h.tablesOf hu) hb hbefore
  obtain ⟨t, hremake, ht, htdriver, htjournal⟩ := h.exec_remake hissue hv (hvdriver.trans hudriver)
  refine ⟨t, notes, ⟨?_, (h.upheld t ht).isOpen h.isOpen, fun hx => ?_⟩, ht, htdriver, ?_, hnoted⟩
  · unfold ready
    rw [exec_bind_ok hmake, exec_bind_ok hfire, hremake]
  · obtain ⟨b, hb⟩ := h.exists_builder
    exact ⟨b, ((h.upheld t ht).builder).trans hb, h.idle hx b hb⟩
  · rw [htjournal, hvjournal, hujournal]

/-- Behind harmless hooks the statement goes to the driver, and if it succeeds the other hooks run. -/
theorem exec_call (hafter : ∀ hook ∈ s.hooks.running x.after (s.tablesOf id), Harmless env K id hook) :
    ∃ ended t notes rest, (x.call.perform id).exec env s = (ended, t) ∧ t.journal = s.journal ++ notes ++ rest ∧
      Noted (x.told id i) (s.hooks.running x.before (s.tablesOf id)) notes ∧ x.Ends id i s ended t rest := by
  obtain ⟨u, notes, hreaches, hu, hudriver, hujournal, hnoted⟩ := h.reaches hnotes hissue hbefore
  obtain ⟨text, htext⟩ := h.text hissue
  have hrun := exec_run_eq hreaches.isOpen htext
  rw [hudriver] at hrun
  rw [hreaches.exec_call]
  rcases hexecuted : s.driver.execute i.sql i.bindings with ⟨executed, d, wires⟩
  rw [hexecuted] at hrun
  let v : Session := u.called (.execute i.sql i.bindings)
  have hv : K v := h.called (c := .execute i.sql i.bindings) trivial hu
  have hcall : (DriverCall.execute i.sql i.bindings).on u.driver = (executed.map fun _ => (), d, wires) := by
    rw [hudriver, DriverCall.on, hexecuted]
    rfl
  have hvdriver : v.driver = d := congrArg (fun given => given.2.1) hcall
  have hvjournal : v.journal = s.journal ++ notes ++ wires.map .wire := by
    have hwires : v.journal = u.journal ++ wires.map .wire :=
      congrArg (fun given : Except Fault Unit × Driver × List WireEntry => u.journal ++ given.2.2.map Entry.wire) hcall
    rw [hwires, hujournal]
  cases executed with
  | error fault =>
      refine ⟨_, v, notes, wires.map .wire, exec_bind_error hrun, hvjournal, hnoted, ?_⟩
      exact .failed hexecuted rfl hvdriver
  | ok result =>
      have hidentify := exec_identify env result x v
      have hw := h.identified hv result
      rw [exec_bind_ok hrun, conclude_eq]
      rw [hvdriver] at hidentify hw
      rcases hasked : x.identify result d with ⟨asked, d', wires'⟩
      rw [hasked] at hidentify hw
      let w : Session := { v with driver := d', journal := v.journal ++ wires'.map .wire }
      cases asked with
      | error fault =>
          refine ⟨.error fault, w, notes, wires.map .wire ++ wires'.map .wire, exec_bind_error hidentify, ?_, hnoted,
            .untold hexecuted hasked rfl rfl⟩
          rw [← List.append_assoc, ← hvjournal]
      | ok insertId =>
          obtain ⟨b, hb⟩ := h.builder hw
          obtain ⟨answers, y, notes', hfire, hy, hydriver, hyjournal, hnoted'⟩ :=
            exec_fire hnotes (argumentsOf_outcome insertId x) (fun t ht => (h.upheld t ht).hooks) h.isTable hw
              (h.tablesOf hw) hb hafter
          obtain ⟨b', hb'⟩ := h.builder hy
          obtain ⟨ended, t, hanswer, htdriver, htjournal, hended⟩ := exec_answer result insertId x hb'
          refine ⟨ended, t, notes, wires.map .wire ++ wires'.map .wire ++ notes', ?_, ?_, hnoted,
            .done hexecuted hasked hnoted' hended (htdriver.trans hydriver)⟩
          · rw [exec_bind_ok hidentify, exec_bind_ok hfire, hanswer]
          · rw [htjournal, hyjournal, ← List.append_assoc, ← List.append_assoc, ← hvjournal]

end Hooks

end Calm

/-! ### A session with hooks -/

/-- A builder for a table with hooks that make no calls. -/
def attended : Session :=
  { watched .beforeDelete [] [] with
    hooks := [(anyTable, [(.beforeDelete, .hook "all" 0), (.afterDelete, .hook "all" 0)]),
      (.text "people", [(.beforeDelete, .hook "watch" 0)])] }

/-- A hook without calls leaves its builder as it was. -/
theorem harmless_idle (depth : Nat) {script : Nat} (hs : (requireOpen id).exec env s = (.ok (), s))
    (hscript : s.scripts[script]? = some ⟨[], .value .null⟩) (name : String) :
    Harmless (Play.surroundings (depth + 1)) (s.Upheld id) id (.hook name script) := by
  intro call t hbuilder ht
  have hkept : t.scripts[script]? = some ⟨[], .value .null⟩ := ht.scripts _ _ hscript
  obtain ⟨fault, hstops⟩ | ⟨b, hb, -⟩ := requireOpen_cases env id s
  · rw [hs] at hstops
    cases hstops
  obtain ⟨stored, hnotify⟩ := @Play.exec_notify_idle (Play.surroundings depth) name script call t b hkept
    (by rw [hbuilder, ht.builder, hb])
  refine ⟨.null, _, hnotify, ⟨⟨⟨ht.parts.drafts, ht.parts.builders, ht.parts.engine⟩, ht.hooks, ht.scripts⟩,
    ht.builder, ht.scopes⟩, ?_, rfl, fun hother => ?_⟩
  · rintro other script' heq
    cases heq
    exact (Array.getElem?_eq_some_iff.1 hkept).1
  · exact absurd rfl (hother name script)

def clearingPeople : Issued := ⟨.text "DELETE FROM `people`", [], false⟩

theorem linked_attended : attended.Linked where
  draft id b hb := by
    rcases id with _ | _ | id
    · cases hb
      decide
    · cases hb
      decide
    · cases hb
  join n d hd j hj := by
    rcases n with _ | _ | n
    · cases hd
      cases hj
    · cases hd
      cases hj
    · cases hd
  union n d hd u hu := by
    rcases n with _ | _ | n
    · cases hd
      cases hu
    · cases hd
      cases hu
    · cases hd

theorem calm_attended : (delete .null).Calm (Play.surroundings 2) 0 attended (attended.Upheld 0) := by
  refine .of_groupless linked_attended rfl nofun (fun table htable => ?_) nofun (groupless_of_drafts rfl 0)
  rw [List.mem_singleton.1 htable]
  exact .inr ⟨rfl, _, rfl⟩

theorem issue_attended :
    ((delete .null).issue 0).exec (Play.surroundings 2) attended = (.ok clearingPeople, attended) := by
  have htree : ((StatementRequest.delete .null).resolve 0).exec (Play.surroundings 2) attended =
      (.ok (.clearing (.text "people")), attended) := rfl
  have hrender : (StatementTree.clearing (.text "people")).render (.ofEngine .mysql) =
      .ok ⟨"DELETE FROM `people`", []⟩ := StatementTree.render_eq_of_sql (by decide +kernel)
  rw [issue_eq rfl, exec_bind_ok ((exec_compile htree).trans (congrArg (·, _) hrender))]
  rfl

/-- The course of an execution. A statement that cannot be made leaves no trace. Otherwise the hooks in front of it
run; the first of them that fails is the last thing that happens. When they have run, the statement is handed to the
driver once, and only if it succeeds the hooks behind it run. -/
theorem lifecycle (depth : Nat) {K : Session → Prop} (h : Calm (Play.surroundings (depth + 1)) id x s K) :
    (∀ fault u, (x.issue id).exec (Play.surroundings (depth + 1)) s = (.error fault, u) →
      ∃ t, (x.call.perform id).exec (Play.surroundings (depth + 1)) s = (.error fault, t) ∧ t.driver = s.driver ∧
        t.journal = s.journal ∧ t.lastStatement = s.lastStatement) ∧
    ∀ i u, (x.issue id).exec (Play.surroundings (depth + 1)) s = (.ok i, u) →
      (∀ front hook back, s.hooks.running x.before (s.tablesOf id) = front ++ hook :: back →
        (∀ other ∈ front, Harmless (Play.surroundings (depth + 1)) K id other) →
        Raises (Play.surroundings (depth + 1)) K id hook →
        ∃ fault t notes v, (x.call.perform id).exec (Play.surroundings (depth + 1)) s = (.error fault, t) ∧
          t.driver = s.driver ∧ t.journal = s.journal ++ notes ∧ Noted (x.told id i) (front ++ [hook]) notes ∧ K v ∧
          (runHook hook (x.told id i)).exec (Play.surroundings (depth + 1)) v = (.error fault, t)) ∧
      ((∀ hook ∈ s.hooks.running x.before (s.tablesOf id), Harmless (Play.surroundings (depth + 1)) K id hook) →
        (∀ hook ∈ s.hooks.running x.after (s.tablesOf id), Harmless (Play.surroundings (depth + 1)) K id hook) →
        ∃ ended t notes rest, (x.call.perform id).exec (Play.surroundings (depth + 1)) s = (ended, t) ∧
          t.journal = s.journal ++ notes ++ rest ∧
          Noted (x.told id i) (s.hooks.running x.before (s.tablesOf id)) notes ∧ x.Ends id i s ended t rest) := by
  have hnotes := Play.notes_surroundings depth
  refine ⟨fun fault u hissue => ?_, fun i u hissue => ⟨fun front hook back htold hharmless hraises => ?_,
    fun hbefore hafter => ?_⟩⟩
  · obtain ⟨t, hmake, hsame⟩ := h.exec_make_error hissue
    have hready : (x.ready id).exec (Play.surroundings (depth + 1)) s = (.error fault, t) := exec_bind_error hmake
    rw [perform_call, exec_bind_error hready]
    exact ⟨t, rfl, hsame.driver, hsame.journal, hsame.lastStatement⟩
  · exact h.exec_call_raises hnotes hissue htold hharmless hraises
  · exact h.exec_call hnotes hissue hbefore hafter

/-- The hook for any table and then the one for the table run in front of the deletion. -/
theorem lifecycle_attended : ∃ ended t notes rest,
    ((BuilderCall.delete .null).perform 0).exec (Play.surroundings 2) attended = (ended, t) ∧
      t.journal = notes ++ rest ∧
      Noted ((delete .null).told 0 clearingPeople) [.hook "all" 0, .hook "watch" 0] notes ∧
      (delete .null).Ends 0 clearingPeople attended ended t rest := by
  obtain ⟨-, hcourse⟩ := lifecycle 1 calm_attended
  have hharmless : ∀ name, Harmless (Play.surroundings 2) (attended.Upheld 0) 0 (.hook name 0) :=
    harmless_idle 1 calm_attended.isOpen rfl
  refine (hcourse clearingPeople _ issue_attended).2 (fun hook hmem => ?_) fun hook hmem => ?_
  · rcases List.mem_cons.1 hmem with rfl | hmem
    · exact hharmless "all"
    · rw [List.mem_singleton.1 hmem]
      exact hharmless "watch"
  · rw [List.mem_singleton.1 hmem]
    exact hharmless "all"

/-- A note in the journal by what it is about: the name of the hook, or the text of the statement. -/
def summary : Entry → Option String
  | .hook name _ _ _ _ => some name
  | .wire (.execute sql _) => sql.text?
  | .wire (.cursor sql _) => sql.text?
  | .wire _ => none

/-- A builder whose group asks the database for something before it declares a condition. -/
def consulting : Session :=
  { watched .beforeDelete [] [] with
    drafts := #[{ Draft.over (.text "people") with
      wheres := some [⟨.group 1, .null, .null, .text "AND", false, none⟩] }, .over (.text "journal")]
    scripts := #[⟨[], .value .null⟩, ⟨[
      .mk "statement" [.value (.text "SELECT 1"), .list []] [] { target := "journal" } [] default,
      .mk "where" [.value (.text "tenant"), .value (.text "="), .value (.int 1)] [] {} [] default], .value .null⟩] }

/-- A builder whose connection has to ask for the identifier of a new row. -/
def identifying : Session :=
  { watched .beforeDelete [] [] with
    driver := .cursor {
      engine := .postgresql
      style := .qmark
      catchesAll := false
      replies := [{ rowCount := .int 1 }, { columns := ["lastval"], rows := [[.int 7]] }]
      commitFailure := none
      rollbackFailure := none
      closeFailure := none } }

/-- A group that asks the database for something does so in front of the hooks, wherever its builder is compiled. For
the identifier of a new row the database is asked behind the statement. -/
theorem not_lifecycle :
    (∃ t, t = (((BuilderCall.delete .null).perform 0).exec (Play.surroundings 3) consulting).2 ∧
      t.journal.map summary =
        [some "SELECT 1", some "watch", some "DELETE FROM `people` WHERE (`tenant` = ?)"] ∧
      ¬∃ i notes rest, t.journal = notes ++ rest ∧
        Noted ((delete .null).told 0 i) (consulting.hooks.running .beforeDelete (consulting.tablesOf 0)) notes) ∧
    ∃ t q u, t = (((BuilderCall.insert .insert nameAda).perform 0).exec (Play.surroundings 3) identifying).2 ∧
      t.journal.map summary =
        [some "INSERT INTO \"people\" (\"name\") VALUES (?)", none, none, some "SELECT lastval()", none, none] ∧
      (compile 0 (.insert .insert nameAda)).exec (Play.surroundings 3) identifying = (.ok q, u) ∧
      (identifying.hooks.running .beforeInsert (identifying.tablesOf 0) = [] ∧
        identifying.hooks.running .afterInsert (identifying.tablesOf 0) = []) ∧
      t.journal ≠ (identifying.driver.execute (.text q.sql) q.bindings).2.2.map .wire := by
  constructor
  · have hjournal : (((BuilderCall.delete .null).perform 0).exec (Play.surroundings 3) consulting).2.journal.map
        summary = [some "SELECT 1", some "watch", some "DELETE FROM `people` WHERE (`tenant` = ?)"] := by decide +kernel
    refine ⟨_, rfl, hjournal, ?_⟩
    rintro ⟨i, notes, rest, hnotes, hnoted⟩
    rw [hnotes] at hjournal
    have hrunning : consulting.hooks.running .beforeDelete (consulting.tablesOf 0) = [.hook "watch" 0] := rfl
    rw [hrunning] at hnoted
    cases hnoted with
    | hook name script calls h =>
        have hname : some "watch" = some "SELECT 1" := (List.cons.inj hjournal).1
        exact absurd hname (by decide)
    | other hother h => exact absurd rfl (hother "watch" 0)
  · obtain ⟨q, hq, hsql⟩ := exec_eq_ok (compile 0 (.insert .insert nameAda)) (Play.surroundings 3) identifying
      (fun q => ((identifying.driver.execute (.text q.sql) q.bindings).2.2.length)) (y := 3) (by decide +kernel)
    have hjournal : (((BuilderCall.insert .insert nameAda).perform 0).exec (Play.surroundings 3)
        identifying).2.journal.map summary = [some "INSERT INTO \"people\" (\"name\") VALUES (?)", none, none,
          some "SELECT lastval()", none, none] := by decide +kernel
    refine ⟨_, q, _, rfl, hjournal, hq, ⟨rfl, rfl⟩, fun heq => ?_⟩
    have hlength := congrArg List.length hjournal
    rw [heq, List.length_map, List.length_map, hsql] at hlength
    cases hlength

end Execution

end SqlBuilder
