import SqlBuilder.Proofs.Session.Playing

/-!
The hooks of an event. The hook for any table runs first, then those of the tables that the builder declares, in their
order. A hook that returns lets the next one run, and one that fails is the last. The journal tells of each hook once,
whatever calls it has made; groups that serve as hooks are not told of.
-/

namespace SqlBuilder

open Act Session Execute

namespace HookTable

def running? (hooks : HookTable) (event : EventKind) (table : Value) : Option Value :=
  (hooks.find? event table).filter fun hook => !hook.isNull

/-- The hooks that run at an event on the tables: first the one for any table, then those of the tables in order. -/
def running (hooks : HookTable) (event : EventKind) (tables : List Value) : List Value :=
  (anyTable :: tables).filterMap (hooks.running? event)

end HookTable

/-- The value can be declared as a table: it is a fragment of SQL, or it can be looked up and written. -/
def Value.IsTable (v : Value) : Prop := v.isRaw = true ∨ v.isKey = true ∧ ∃ name, v.written = .ok name

def Session.tablesOf (s : Session) (id : Nat) : List Value :=
  match s.builders[id]? with
  | some b => (s.drafts[b.draft]?.getD {}).tables.toList
  | none => []

theorem Session.tablesOf_eq {s : Session} {id : Nat} {b : Builder} (hb : s.builders[id]? = some b) :
    s.tablesOf id = (s.drafts[b.draft]?.getD {}).tables.toList := by
  unfold tablesOf
  rw [hb]

/-- What the journal tells of hooks that have run, in their order. -/
inductive Noted (call : HookCall) : List Value → List Entry → Prop where
  | nil : Noted call [] []
  | hook {hooks : List Value} {entries : List Entry} (name : String) (script : Nat) (calls : List Record)
      (h : Noted call hooks entries) :
      Noted call (.hook name script :: hooks)
        (.hook name call.event call.statement call.arguments calls :: entries)
  | other {hooks : List Value} {entries : List Entry} {hook : Value} (hother : ∀ name script, hook ≠ .hook name script)
      (h : Noted call hooks entries) : Noted call (hook :: hooks) entries

theorem Noted.append {call : HookCall} {front back : List Value} {entries more : List Entry}
    (h : Noted call front entries) (h' : Noted call back more) : Noted call (front ++ back) (entries ++ more) := by
  induction h with
  | nil => exact h'
  | hook name script calls _ ih => exact .hook name script calls ih
  | other hother _ ih => exact .other hother ih

/-! ### The journal of a hook -/

def Session.SameJournal (s t : Session) : Prop := t.journal = s.journal

instance : IsPreorder Session Session.SameJournal where
  refl _ := rfl
  trans _ _ _ h h' := h'.trans h

namespace Play

variable {env : Surroundings}

/-- What has no part in a statement is not told in the journal. -/
theorem idling_sameJournal : Idling (Keeps SameJournal env) where
  toModular := Keeps.modular
  throw := .throw
  idle _ _ hop hidle _ _ s := by
    rw [hop]
    exact (hidle s).journal

/-- The calls of a script are put on record with journals of their own. -/
theorem sameJournal_record (isOutermost : Bool) (script : List Step) :
    Keeps SameJournal env (record isOutermost script) := by
  induction script with
  | nil =>
      unfold record
      exact .pure _
  | cons step rest ih =>
      obtain ⟨method, inOrder, byName, options, inner, answer⟩ := step
      unfold record
      refine .bind (fun s => ?_) fun fault => ?_
      · obtain ⟨report, inner, hrecorded⟩ := exec_recorded env (method = "transaction")
          (do
            let target ← lookup options.target
            report target (← stepOn target (.mk method inOrder byName options inner answer))) s
        have hjournal := congrArg Session.journal hrecorded
        exact hjournal
      · have hrest : ∀ _ : Unit, Keeps SameJournal env (record isOutermost rest) := fun _ => ih
        dsimp only
        split
        · exact Keeps.modular.otherwise (.throw _) hrest
        · exact hrest ()

/-- The variable has the value, and its former content afterwards. -/
theorem exec_withTarget (env : Surroundings) {α : Type} (target : Value) (operation : Act α) (s : Session) : ∃ stored,
    (withTarget target operation).exec env s =
      ((operation.exec env { s with stored := ("it", target) :: s.stored.filter fun entry => entry.1 ≠ "it" }).1,
        { (operation.exec env { s with stored := ("it", target) :: s.stored.filter fun entry => entry.1 ≠ "it" }).2 with
          stored }) := by
  unfold withTarget
  have hlookup : (lookup? "it").exec env s = (.ok ((s.stored.find? fun entry => entry.1 = "it").map (·.2)), s) := rfl
  have hassign : (assign "it" target).exec env s = (.ok ⟨⟩, _) := exec_modify env s _
  have hobserved := fun t => @exec_observed _ env t operation
  rw [exec_bind_ok hlookup, exec_bind_ok hassign, observe, exec_bind_ok (hobserved _)]
  cases (s.stored.find? fun entry => entry.1 = "it").map (·.2) with
  | none => exact ⟨_, exec_lift _⟩
  | some v => exact ⟨_, exec_lift _⟩

theorem sameJournal_withTarget (target : Value) {operation : Act Value} (h : Keeps SameJournal env operation) :
    Keeps SameJournal env (withTarget target operation) := by
  intro s
  obtain ⟨stored, htarget⟩ := exec_withTarget env target operation s
  rw [htarget]
  exact h { s with stored := ("it", target) :: s.stored.filter fun entry => entry.1 ≠ "it" }

/-- The journal tells of a hook once, with the calls that it has made. -/
theorem journal_notify {name : String} {script : Nat} {call : HookCall} {s : Session}
    (hkept : script < s.scripts.size) : ∃ calls, ((notify name script call).exec env s).2.journal =
      s.journal ++ [.hook name call.event call.statement call.arguments calls] := by
  let operation : Act Value := do
    withTarget (← Act.builderValue call.builder) do
      record false s.scripts[script].steps
      value s.scripts[script].answer
  have hoperation : Keeps SameJournal env operation := by
    refine .bind (.bind (.builder _) fun _ => .pure _) fun _ => sameJournal_withTarget _ ?_
    exact .bind (sameJournal_record _ _) fun _ => idling_sameJournal.value _
  have hobserved : (observe operation).exec env { s with records := [] } = _ := exec_observed operation
  have hscript : s.scripts[script]? = some s.scripts[script] := Array.getElem?_eq_getElem hkept
  unfold notify
  rw [exec_bind, exec_get]
  simp only [hscript]
  rw [exec_bind, exec_set]
  dsimp only
  rw [exec_bind_ok hobserved, exec_bind, exec_modify]
  dsimp only
  rw [exec_lift]
  have hjournal := hoperation { s with records := [] }
  dsimp only
  rw [hjournal]
  exact ⟨_, rfl⟩

/-- A hook without calls leaves nothing but its note in the journal. -/
theorem exec_notify_idle {name : String} {script : Nat} {call : HookCall} {s : Session}
    {b : Builder} (hscript : s.scripts[script]? = some ⟨[], .value .null⟩)
    (hb : s.builders[call.builder]? = some b) : ∃ stored, (notify name script call).exec env s = (.ok .null, { s with
      stored
      journal := s.journal ++ [.hook name call.event call.statement call.arguments []] }) := by
  let t : Session := { s with records := [] }
  let operation : Act Value := do
    withTarget (← Act.builderValue call.builder) do
      record false []
      value (.value .null)
  have hvalue : (Act.builderValue call.builder).exec env t = (.ok (.builder b.role.kind call.builder), t) :=
    exec_builderValue hb
  obtain ⟨stored, htarget⟩ := exec_withTarget env (.builder b.role.kind call.builder)
    (do
      record false []
      value (.value .null)) t
  have hidle : ∀ u, (do
      record false []
      value (.value .null) : Act Value).exec env u = (.ok .null, u) := by
    intro u
    unfold record value
    rfl
  rw [hidle] at htarget
  have hobserved := @exec_observed _ env t operation
  have hop : operation.exec env t = (.ok .null, { t with stored }) := (exec_bind_ok hvalue).trans htarget
  rw [hop] at hobserved
  refine ⟨stored, ?_⟩
  unfold notify
  rw [exec_bind, exec_get]
  simp only [hscript]
  rw [exec_bind, exec_set]
  dsimp only
  rw [observe, exec_bind_ok hobserved]
  rfl

end Play

/-- The journal tells of every hook whose script is kept. -/
def Surroundings.Notes (env : Surroundings) : Prop := ∀ name script call s, script < s.scripts.size →
  ∃ calls, ((env.notify name script call).run.run s).2.journal =
    s.journal ++ [.hook name call.event call.statement call.arguments calls]

theorem Play.notes_surroundings (depth : Nat) : (surroundings (depth + 1)).Notes :=
  fun _ _ _ _ hkept => journal_notify hkept

/-! ### One hook -/

/-- The script of the hook is kept, and the driver is as before. What is not told of leaves the journal alone. -/
structure Discreet (hook : Value) (s t : Session) : Prop where
  kept : ∀ name script, hook = .hook name script → script < s.scripts.size
  driver : t.driver = s.driver
  journal : (∀ name script, hook ≠ .hook name script) → t.journal = s.journal

/-- Whatever the hook is told about the builder in these states, it returns and does not leave them, and the driver is
not called. -/
def Harmless (env : Surroundings) (P : Session → Prop) (id : Nat) (hook : Value) : Prop := ∀ call s,
  call.builder = id → P s → ∃ v t, (runHook hook call).exec env s = (.ok v, t) ∧ P t ∧ Discreet hook s t

/-- Whatever the hook is told about the builder in these states, it fails, and the driver is not called. -/
def Raises (env : Surroundings) (P : Session → Prop) (id : Nat) (hook : Value) : Prop := ∀ call s,
  call.builder = id → P s → ∃ fault t, (runHook hook call).exec env s = (.error fault, t) ∧ Discreet hook s t

variable {env : Surroundings} {P : Session → Prop}

/-- A hook is told of whether it returns or fails. -/
theorem Discreet.noted {hook : Value} {call : HookCall} {s t : Session} {outcome : Except Fault Value}
    (h : Discreet hook s t) (hnotes : env.Notes) (hrun : (runHook hook call).exec env s = (outcome, t)) :
    ∃ notes, t.journal = s.journal ++ notes ∧ Noted call [hook] notes := by
  by_cases hhook : ∃ name script, hook = .hook name script
  · obtain ⟨name, script, rfl⟩ := hhook
    obtain ⟨calls, hjournal⟩ := hnotes name script call s (h.kept name script rfl)
    have ht : t = ((env.notify name script call).run.run s).2 := (congrArg Prod.snd hrun).symm
    exact ⟨_, ht ▸ hjournal, .hook name script calls .nil⟩
  · have hother : ∀ name script, hook ≠ .hook name script := fun name script heq => hhook ⟨name, script, heq⟩
    exact ⟨[], by rw [h.journal hother, List.append_nil], .other hother .nil⟩

/-! ### The hooks of an event -/

namespace Execute

/-- Runs the hook of an event on a table, if there is one. -/
def fireOn (id : Nat) (event : EventKind) (statement : Option Issued) (arguments table : Value) : Act Value := do
  match ← hookFor event table with
  | none => pure .null
  | some hook =>
    Act.check table.written
    runHook hook { event, statement, builder := id, arguments := ← Act.lift (argumentsOf arguments) }

theorem fire_eq (id : Nat) (event : EventKind) (statement : Option Issued) (arguments : Value) :
    fire id event statement arguments = (do
      let d ← Act.draft id
      let answers ← (anyTable :: d.tables.toList).mapM (fireOn id event statement arguments)
      pure (answers.filter fun v => !v.isNull)) := rfl

theorem isTable_anyTable : anyTable.IsTable := .inr ⟨rfl, ":any", rfl⟩

theorem exec_hookFor {event : EventKind} {table : Value} (htable : table.IsTable) (s : Session) :
    (hookFor event table).exec env s = (.ok (s.hooks.running? event table), s) := by
  unfold hookFor HookTable.running? HookTable.find?
  rcases htable with hraw | ⟨hkey, -⟩
  · rw [if_pos hraw, if_pos hraw]
    rfl
  · cases hraw : table.isRaw with
    | true => rfl
    | false =>
        have hslot : (HookTable.slot table).isKey = true := by
          unfold HookTable.slot
          split
          · exact hkey
          · rfl
        unfold HookTable.slot?
        rw [if_pos hslot]
        simp only [Bool.false_eq_true, if_false]
        rfl

theorem exec_fireOn {id : Nat} {event : EventKind} {statement : Option Issued} {arguments table : Value}
    {entries : List (Value × Value)} (htable : table.IsTable) (harguments : argumentsOf arguments = .ok entries)
    (s : Session) : (fireOn id event statement arguments table).exec env s =
      match s.hooks.running? event table with
      | none => (.ok .null, s)
      | some hook => (runHook hook ⟨event, statement, id, entries⟩).exec env s := by
  unfold fireOn
  rw [exec_bind_ok (exec_hookFor htable s)]
  cases hrunning : s.hooks.running? event table with
  | none => rfl
  | some hook =>
      have hname : ∃ name, table.written = .ok name := by
        rcases htable with hraw | ⟨-, hname⟩
        · unfold HookTable.running? HookTable.find? at hrunning
          rw [if_pos hraw] at hrunning
          cases hrunning
        · exact hname
      obtain ⟨name, hname⟩ := hname
      have hcheck : (Act.check table.written).exec env s = (.ok (), s) := by
        rw [hname]
        rfl
      have hlift : (Act.lift (argumentsOf arguments)).exec env s = (.ok entries, s) := by
        rw [harguments]
        exact exec_lift _
      dsimp only
      rw [exec_bind_ok hcheck, exec_bind_ok hlift]

section Fire

variable {hooks : HookTable} {id : Nat} {event : EventKind} {statement : Option Issued} {arguments : Value}
  {entries : List (Value × Value)} (hnotes : env.Notes) (harguments : argumentsOf arguments = .ok entries)
  (hhooks : ∀ t, P t → t.hooks = hooks)

include hnotes harguments hhooks

/-- Harmless hooks run one after the other. -/
theorem exec_fireOn_all {tables : List Value} (htables : ∀ table ∈ tables, table.IsTable)
    (hharmless : ∀ hook ∈ tables.filterMap (hooks.running? event), Harmless env P id hook) {s : Session} (hs : P s) :
    ∃ answers t notes, (tables.mapM (fireOn id event statement arguments)).exec env s = (.ok answers, t) ∧ P t ∧
      t.driver = s.driver ∧ t.journal = s.journal ++ notes ∧
      Noted ⟨event, statement, id, entries⟩ (tables.filterMap (hooks.running? event)) notes := by
  induction tables generalizing s with
  | nil => exact ⟨[], s, [], rfl, hs, rfl, (List.append_nil _).symm, .nil⟩
  | cons table tables ih =>
      have hrest := fun other hmem => htables other (List.mem_cons_of_mem table hmem)
      have htable : (fireOn id event statement arguments table).exec env s = _ :=
        exec_fireOn (htables table List.mem_cons_self) harguments s
      rw [hhooks s hs] at htable
      rw [List.mapM_cons]
      cases hrunning : hooks.running? event table with
      | none =>
          rw [hrunning] at htable
          rw [List.filterMap_cons_none hrunning] at hharmless ⊢
          obtain ⟨answers, t, notes, hexec, ht⟩ := ih hrest hharmless hs
          rw [exec_bind_ok htable, exec_bind_ok hexec]
          exact ⟨_, t, notes, rfl, ht⟩
      | some hook =>
          rw [hrunning] at htable
          rw [List.filterMap_cons_some hrunning] at hharmless ⊢
          obtain ⟨v, u, hrun, hu, hdiscreet⟩ :=
            hharmless hook List.mem_cons_self ⟨event, statement, id, entries⟩ s rfl hs
          obtain ⟨told, htold, hnoted⟩ := hdiscreet.noted hnotes hrun
          obtain ⟨answers, t, notes, hexec, ht, hdriver, hjournal, hmore⟩ :=
            ih hrest (fun other hmem => hharmless other (List.mem_cons_of_mem hook hmem)) hu
          rw [exec_bind_ok (htable.trans hrun), exec_bind_ok hexec]
          refine ⟨_, t, told ++ notes, rfl, ht, hdriver.trans hdiscreet.driver, ?_, hnoted.append hmore⟩
          rw [hjournal, htold, List.append_assoc]

/-- A hook that fails is the last one to run. -/
theorem exec_fireOn_raises {tables : List Value} (htables : ∀ table ∈ tables, table.IsTable)
    {front back : List Value} {hook : Value} (htold : tables.filterMap (hooks.running? event) = front ++ hook :: back)
    (hharmless : ∀ other ∈ front, Harmless env P id other) (hraises : Raises env P id hook) {s : Session} (hs : P s) :
    ∃ fault t notes v, (tables.mapM (fireOn id event statement arguments)).exec env s = (.error fault, t) ∧
      t.driver = s.driver ∧ t.journal = s.journal ++ notes ∧
      Noted ⟨event, statement, id, entries⟩ (front ++ [hook]) notes ∧ P v ∧
      (runHook hook ⟨event, statement, id, entries⟩).exec env v = (.error fault, t) := by
  induction tables generalizing s front with
  | nil => cases front <;> cases htold
  | cons table tables ih =>
      have hrest := fun other hmem => htables other (List.mem_cons_of_mem table hmem)
      have htable : (fireOn id event statement arguments table).exec env s = _ :=
        exec_fireOn (htables table List.mem_cons_self) harguments s
      rw [hhooks s hs] at htable
      rw [List.mapM_cons]
      cases hrunning : hooks.running? event table with
      | none =>
          rw [hrunning] at htable
          rw [List.filterMap_cons_none hrunning] at htold
          obtain ⟨fault, t, notes, v, hexec, ht⟩ := ih hrest htold hharmless hs
          rw [exec_bind_ok htable, exec_bind_error hexec]
          exact ⟨fault, t, notes, v, rfl, ht⟩
      | some first =>
          rw [hrunning] at htable
          rw [List.filterMap_cons_some hrunning] at htold
          cases front with
          | nil =>
              cases htold
              obtain ⟨fault, t, hrun, hdiscreet⟩ := hraises ⟨event, statement, id, entries⟩ s rfl hs
              obtain ⟨notes, htold, hnoted⟩ := hdiscreet.noted hnotes hrun
              rw [exec_bind_error (htable.trans hrun)]
              exact ⟨fault, t, notes, s, rfl, hdiscreet.driver, htold, hnoted, hs, hrun⟩
          | cons other front =>
              obtain ⟨rfl, hbehind⟩ := List.cons.inj htold
              obtain ⟨v, u, hrun, hu, hdiscreet⟩ :=
                hharmless first List.mem_cons_self ⟨event, statement, id, entries⟩ s rfl hs
              obtain ⟨told, htold, hnoted⟩ := hdiscreet.noted hnotes hrun
              obtain ⟨fault, t, notes, w, hexec, hdriver, hjournal, hmore, hw⟩ :=
                ih hrest hbehind (fun other hmem => hharmless other (List.mem_cons_of_mem first hmem)) hu
              rw [exec_bind_ok (htable.trans hrun), exec_bind_error hexec]
              refine ⟨fault, t, told ++ notes, w, rfl, hdriver.trans hdiscreet.driver, ?_, hnoted.append hmore, hw⟩
              rw [hjournal, htold, List.append_assoc]

variable {tables : List Value} (htables : ∀ table ∈ tables, table.IsTable)

include htables

theorem exec_fire {s : Session} (hs : P s) (hdeclared : s.tablesOf id = tables) {b : Builder}
    (hb : s.builders[id]? = some b)
    (hharmless : ∀ hook ∈ hooks.running event tables, Harmless env P id hook) :
    ∃ answers t notes, (fire id event statement arguments).exec env s = (.ok answers, t) ∧ P t ∧
      t.driver = s.driver ∧ t.journal = s.journal ++ notes ∧
      Noted ⟨event, statement, id, entries⟩ (hooks.running event tables) notes := by
  obtain ⟨answers, t, notes, hexec, ht⟩ := exec_fireOn_all hnotes harguments hhooks
    (List.forall_mem_cons.2 ⟨isTable_anyTable, htables⟩) hharmless hs
  rw [fire_eq, exec_bind_ok (exec_draft hb), ← tablesOf_eq hb, hdeclared, exec_bind_ok hexec]
  exact ⟨_, t, notes, rfl, ht⟩

theorem exec_fire_raises {s : Session} (hs : P s) (hdeclared : s.tablesOf id = tables) {b : Builder}
    (hb : s.builders[id]? = some b) {front back : List Value} {hook : Value}
    (htold : hooks.running event tables = front ++ hook :: back)
    (hharmless : ∀ other ∈ front, Harmless env P id other) (hraises : Raises env P id hook) :
    ∃ fault t notes v, (fire id event statement arguments).exec env s = (.error fault, t) ∧ t.driver = s.driver ∧
      t.journal = s.journal ++ notes ∧ Noted ⟨event, statement, id, entries⟩ (front ++ [hook]) notes ∧ P v ∧
      (runHook hook ⟨event, statement, id, entries⟩).exec env v = (.error fault, t) := by
  obtain ⟨fault, t, notes, v, hexec, ht⟩ := exec_fireOn_raises hnotes harguments hhooks
    (List.forall_mem_cons.2 ⟨isTable_anyTable, htables⟩) htold hharmless hraises hs
  rw [fire_eq, exec_bind_ok (exec_draft hb), ← tablesOf_eq hb, hdeclared, exec_bind_error hexec]
  exact ⟨fault, t, notes, v, rfl, ht⟩

end Fire

end Execute

end SqlBuilder
