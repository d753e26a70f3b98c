import SqlBuilder.Proofs.Transaction.Outcome

/-!
Transactions whose work is undone as a whole. The script executes statements, inserts batches and runs transactions
inside. Each level decides on its own whether to commit or to roll back, but the driver has one transaction: the first
level that fails rolls back all the work, and the levels around it leave the driver alone. This needs that no level
inside returns before, since it would commit the work of all levels around it.
-/

namespace SqlBuilder

open Act Session

variable {α : Type} {env : Surroundings} {s t u v : Session} {id builder : Nat}

/-! ### The work of a transaction -/

/-- The move is part of the work: a statement is executed, or a scope comes up. -/
def Move.Work : Move → Prop
  | call c => c.IsStatement
  | opened => True
  | ended _ _ => False
  | refused _ _ => False
  | assumed _ => False

/-- The driver is left alone. -/
def Move.Idle : Move → Prop
  | assumed _ => True
  | _ => False

namespace Stage

variable {σ : Stage} {ms : List Move} {scope : Nat}

/-- Work leaves the transaction of the driver as it is. -/
theorem flag_run_work (hms : ∀ m ∈ ms, m.Work) :
    (σ.run ms).driver.inTransaction = σ.driver.inTransaction := by
  induction ms generalizing σ with
  | nil => rfl
  | cons m ms ih =>
      obtain ⟨hm, hrest⟩ := List.forall_mem_cons.mp hms
      cases m with
      | call c => exact (ih hrest).trans (DriverCall.after_statement hm).1
      | opened => exact ih hrest
      | _ => cases hm

/-- No scope ends with work. -/
theorem Open.run_work (h : σ.Open scope) (hms : ∀ m ∈ ms, m.Work) : (σ.run ms).Open scope := by
  induction ms generalizing σ with
  | nil => exact h
  | cons m ms ih =>
      obtain ⟨hm, hrest⟩ := List.forall_mem_cons.mp hms
      cases m with
      | call c => exact ih h hrest
      | opened => exact ih (getElem?_push h) hrest
      | _ => cases hm

def sent (σ : Stage) : List Move → List WireEntry
  | [] => []
  | m :: ms => m.entries σ.driver ++ (σ.after m).sent ms

/-- The work of a transaction commits nothing. -/
theorem not_commit_mem_sent (hσ : σ.driver.inTransaction = true) (hms : ∀ m ∈ ms, m.Work) :
    WireEntry.commit ∉ σ.sent ms := by
  induction ms generalizing σ with
  | nil => exact List.not_mem_nil
  | cons m ms ih =>
      obtain ⟨hm, hrest⟩ := List.forall_mem_cons.mp hms
      intro hmem
      obtain hfirst | hlater := List.mem_append.mp hmem
      · cases m with
        | call c => exact DriverCall.not_commit_mem_statement hm hσ hfirst
        | opened => exact List.not_mem_nil hfirst
        | _ => cases hm
      · refine ih (σ := σ.after m) ?_ hrest hlater
        exact (flag_run_work (List.forall_mem_singleton.mpr hm)).trans hσ

theorem driver_run_idle (hms : ∀ m ∈ ms, m.Idle) : (σ.run ms).driver = σ.driver := by
  induction ms generalizing σ with
  | nil => rfl
  | cons m ms ih =>
      obtain ⟨hm, hrest⟩ := List.forall_mem_cons.mp hms
      cases m with
      | assumed scope => exact ih hrest
      | _ => cases hm

end Stage

theorem Session.Courses.driver (h : Courses Move.Idle s t) : t.driver = s.driver := by
  obtain ⟨ms, hms, hcourse⟩ := h
  exact (congrArg Stage.driver hcourse.run.1).trans (Stage.driver_run_idle hms)

theorem Session.Courses.flag (h : Courses Move.Work s t) : t.driver.inTransaction = s.driver.inTransaction := by
  obtain ⟨ms, hms, hcourse⟩ := h
  exact (congrArg (fun σ : Stage => σ.driver.inTransaction) hcourse.run.1).trans (Stage.flag_run_work hms)

namespace Session

/-- The session takes work, but none unless the driver has a transaction open. -/
def Works (s t : Session) : Prop := Courses (fun m => s.driver.inTransaction = true ∧ m.Work) s t

/-- The session takes work if the driver has a transaction open. -/
def WorksInside (s t : Session) : Prop := s.driver.inTransaction = true → Courses Move.Work s t

theorem Courses.mono {P Q : Move → Prop} (h : Courses P s t) (hPQ : ∀ m, P m → Q m) : Courses Q s t := by
  obtain ⟨ms, hms, hcourse⟩ := h
  exact ⟨ms, fun m hm => hPQ m (hms m hm), hcourse⟩

theorem Works.courses (h : Works s t) : Courses Move.Work s t := h.mono fun _ hm => hm.2

theorem WorksInside.works (h : WorksInside s t) (hflag : s.driver.inTransaction = true) : Works s t :=
  (h hflag).mono fun _ hm => ⟨hflag, hm⟩

/-- Outside a transaction there is no work. -/
theorem Works.idle (h : Works s t) (hflag : s.driver.inTransaction = false) : Courses Move.Idle s t := by
  refine h.mono fun m hm => ?_
  rw [hflag] at hm
  cases hm.1

instance : IsPreorder Session Works where
  refl s := refl_of (Courses _) s
  trans s t u h h' := by
    refine trans_of (Courses _) h (Courses.mono h' fun m hm => ⟨?_, hm.2⟩)
    exact h.courses.flag.symm.trans hm.1

instance : Lax Works := ⟨fun _ _ h => .of_still (.of_quiet h)⟩

instance : IsPreorder Session WorksInside where
  refl s _ := refl_of (Courses _) s
  trans _ _ _ h h' hflag := trans_of (Courses _) (h hflag) (h' ((h hflag).flag.trans hflag))

instance : Lax WorksInside := ⟨fun _ _ h _ => .of_still (.of_quiet h)⟩

end Session

instance [env.Keeps Works] : env.Executes WorksInside where
  fill script target s _ := Works.courses (Surroundings.Keeps.fill (R := Works) script target s)
  notify name script call s _ := Works.courses (Surroundings.Keeps.notify (R := Works) name script call s)
  statement c s hc _ := .of_move (m := .call c) hc (.called s c)
  pending id _ _ _ _ _ t _ h hflag :=
    (h hflag).trans (.of_still (.still rfl rfl (.modifyBuilder t id fun _ => rfl)))

/-- A batch that is inserted inside a transaction begins none of its own. -/
theorem Transaction.keeps_batch_inside {rows : Nat → Act (List Value)} (id : Nat)
    (hrows : ∀ builder, Keeps WorksInside env (rows builder)) : Keeps WorksInside env (batch id rows) := by
  intro s hflag
  unfold batch
  rw [exec_bind, exec_get]
  dsimp only
  rw [if_pos hflag]
  exact Keeps.bind (hrows id) (fun _ => .pure _) s hflag

/-- A call that does not end the transaction, and executes something only inside a transaction, is work. -/
theorem BuilderCall.works_perform [env.Keeps Works] {c : BuilderCall} (hfinish : c.purpose ≠ .finish)
    (hexecute : c.purpose = .execute → s.driver.inTransaction = true) :
    Works s ((c.perform id).exec env s).2 := by
  cases hflag : s.driver.inTransaction with
  | true =>
      have hinside : WorksInside s ((c.perform id).exec env s).2 :=
        perform_at s id c (fun hc => Keeps.working.perform id hc s) (fun hc => absurd hc hfinish) fun verb data _ t _ =>
          Transaction.keeps_insert_of_batch (fun id _ hrows => Transaction.keeps_batch_inside id hrows) verb id data t
      exact hinside.works hflag
  | false =>
      cases hc : c.purpose with
      | declare => exact Keeps.blind (blind_perform id hc) s
      | execute =>
          rw [hexecute hc] at hflag
          cases hflag
      | finish => exact absurd hc hfinish
      | ask =>
          have hsame : s = ((c.perform id).exec env s).2 := perform_ask id hc s
          rw [← hsame]
          exact refl_of Works s

/-! ### Work that is rolled back -/

/-- Behind whatever work is done the driver can roll back. -/
structure Stage.Revocable (σ : Stage) : Prop where
  sound : σ.driver.Sound
  rollback : ∀ ms, (∀ m ∈ ms, Move.Work m) → DriverCall.rollback.Succeeds (σ.run ms).driver

/-- A driver whose answers are fixed in advance can roll back at any point if no failure is given for that. -/
theorem Stage.rollback_of_scripted {σ : Stage} {d : ScriptedDriver} (hd : σ.driver = .scripted d)
    (hnone : d.rollbackFailure = none) (ms : List Move) (hms : ∀ m ∈ ms, m.Work) :
    DriverCall.rollback.Succeeds (σ.run ms).driver := by
  induction ms generalizing σ d with
  | nil =>
      have hcall : ((ScriptedDriver.mark .rollback d.rollbackFailure false).run d).1 = .ok () := by
        rw [hnone]
        rfl
      change DriverCall.rollback.Succeeds σ.driver
      rw [hd]
      exact hcall
  | cons m ms ih =>
      obtain ⟨hm, hrest⟩ := List.forall_mem_cons.mp hms
      have hafter : ∃ d', (σ.after m).driver = .scripted d' ∧ d'.rollbackFailure = none := by
        cases m with
        | call c =>
            cases c with
            | execute sql values =>
                have hleft := ScriptedDriver.leaves_execute sql values (d, [])
                refine ⟨(Talk.exec (ScriptedDriver.execute sql values) (d, [])).2.1, ?_, ?_⟩
                · change ((DriverCall.execute sql values).after σ.driver) = _
                  rw [hd]
                  rfl
                · exact (congrArg (fun marks => marks.2.1) hleft).trans hnone
            | askInsertId =>
                refine ⟨d, ?_, hnone⟩
                change DriverCall.askInsertId.after σ.driver = _
                rw [hd]
                rfl
            | _ => cases hm
        | opened => exact ⟨d, hd, hnone⟩
        | _ => cases hm
      obtain ⟨d', hd', hnone'⟩ := hafter
      exact ih hd' hnone' hrest

namespace Session

theorem Courses.revocable (h : Courses Move.Work s t) (hs : s.stage.Revocable) : t.stage.Revocable := by
  obtain ⟨ms, hms, hcourse⟩ := h
  rw [hcourse.run.1]
  refine ⟨Stage.sound_run hs.sound, fun ms' hms' => ?_⟩
  rw [← Stage.run_append]
  exact hs.rollback _ (List.forall_mem_append.mpr ⟨hms, hms'⟩)

/-- All that the driver is told to do is work, and at last to roll back, which it does. -/
def Undone (s t : Session) : Prop :=
  ∃ ms rest, (∀ m ∈ ms, m.Work) ∧ DriverCall.rollback.Succeeds (s.stage.run ms).driver ∧
    (∀ m ∈ rest, m.Idle) ∧ Course s (ms ++ [.call .rollback] ++ rest) t

theorem Undone.flag (h : Undone s t) (hs : s.driver.Sound) : t.driver.inTransaction = false := by
  obtain ⟨ms, rest, -, hrollback, hrest, hcourse⟩ := h
  have hend : (DriverCall.rollback.after (s.stage.run ms).driver).inTransaction = false :=
    DriverCall.after_end (Stage.sound_run hs) .rolledBack hrollback
  have hdriver : t.driver = DriverCall.rollback.after (s.stage.run ms).driver := by
    refine (congrArg Stage.driver hcourse.run.1).trans ?_
    rw [Stage.run_append, Stage.driver_run_idle hrest, Stage.run_append]
    rfl
  rw [hdriver]
  exact hend

theorem Undone.of_work (h : Courses Move.Work s t) (h' : Undone t u) : Undone s u := by
  obtain ⟨ms, hms, hcourse⟩ := h
  obtain ⟨ms', rest, hms', hrollback, hrest, hcourse'⟩ := h'
  rw [hcourse.run.1, ← Stage.run_append] at hrollback
  refine ⟨ms ++ ms', rest, List.forall_mem_append.mpr ⟨hms, hms'⟩, hrollback, hrest, ?_⟩
  rw [List.append_assoc, List.append_assoc, ← List.append_assoc ms']
  exact hcourse.append hcourse'

/-- What follows leaves the driver alone. -/
theorem Undone.idle (h : Undone s t) (h' : Courses Move.Idle t u) : Undone s u := by
  obtain ⟨ms, rest, hms, hrollback, hrest, hcourse⟩ := h
  obtain ⟨rest', hrest', hcourse'⟩ := h'
  refine ⟨ms, rest ++ rest', hms, hrollback, List.forall_mem_append.mpr ⟨hrest, hrest'⟩, ?_⟩
  rw [← List.append_assoc]
  exact hcourse.append hcourse'

theorem Undone.called (h : DriverCall.rollback.Succeeds v.driver) : Undone v (v.called .rollback) :=
  ⟨[], [], nofun, h, nofun, .called v .rollback⟩

/-- Work may be undone at any point, and the driver is left alone behind that. -/
def Undoes (s t : Session) : Prop :=
  (s.driver.inTransaction = false → Courses Move.Idle s t) ∧
  (s.driver.inTransaction = true → s.stage.Revocable → Courses Move.Work s t ∨ Undone s t)

theorem Works.undoes (h : Works s t) : Undoes s t := ⟨h.idle, fun _ _ => .inl h.courses⟩

theorem Undoes.trans (h : Undoes s t) (h' : Undoes t u) : Undoes s u := by
  constructor
  · intro hflag
    have hst := h.1 hflag
    exact Courses.trans hst (h'.1 (hst.driver ▸ hflag))
  · intro hflag hs
    obtain hwork | hundone := h.2 hflag hs
    · -- nothing has been rolled back yet, so that the second part may still undo the work of both
      exact (h'.2 (hwork.flag.trans hflag) (hwork.revocable hs)).imp hwork.trans (.of_work hwork)
    · exact .inr (hundone.idle (h'.1 (hundone.flag hs.sound)))

instance : IsPreorder Session Undoes where
  refl s := Works.undoes (refl_of Works s)
  trans _ _ _ := Undoes.trans

theorem Undoes.resumed (h : Undoes s.aside t) (report : Report) (inner : Option (List Record)) :
    Undoes s (s.resumed t report inner) := by
  constructor
  · intro hflag
    obtain ⟨ms, hms, hcourse⟩ := h.1 hflag
    exact ⟨ms, hms, hcourse.resumed report inner⟩
  · intro hflag hs
    obtain ⟨ms, hms, hcourse⟩ | ⟨ms, rest, hms, hrollback, hrest, hcourse⟩ := h.2 hflag hs
    · exact .inl ⟨ms, hms, hcourse.resumed report inner⟩
    · exact .inr ⟨ms, rest, hms, hrollback, hrest, hcourse.resumed report inner⟩

end Session

namespace Transaction

variable {scope : Nat} {script : Nat → Act α} {fault : Fault}

/-- Behind the script of a transaction that fails the work is rolled back, unless that has been done. -/
theorem undone_of_raised (hopen : t.stage.Open scope) (ht : t.stage.Revocable) (hflag : t.driver.inTransaction = true)
    (hr : (script builder).exec env t = (.error fault, v)) (hscript : Undoes t v) :
    ((begun scope builder script).exec env t).1 = .error fault ∧
    Undone t ((begun scope builder script).exec env t).2 := by
  obtain hwork | hundone := hscript.2 hflag ht
  · have hrollback : DriverCall.rollback.Succeeds v.driver := (hwork.revocable ht).rollback [] nofun
    have hv : v.stage.Open scope := by
      obtain ⟨ms, hms, hcourse⟩ := hwork
      rw [hcourse.run.1]
      exact hopen.run_work hms
    rw [begun_rolls_back hr hv (hwork.flag.trans hflag) hrollback]
    exact ⟨rfl, .of_work hwork (.called hrollback)⟩
  · rw [begun_raises hr (.inl (hundone.flag ht.sound))]
    exact ⟨rfl, hundone⟩

/-- A script that returns behind the rollback leaves the driver alone. -/
theorem undone_of_returned {x : α} (hopen : t.stage.Open scope) (ht : t.stage.Revocable)
    (hflag : t.driver.inTransaction = true) (hr : (script builder).exec env t = (.ok x, v)) (hscript : Undoes t v)
    (hv : v.driver.inTransaction = false) : Undone t ((begun scope builder script).exec env t).2 := by
  obtain hwork | hundone := hscript.2 hflag ht
  · have hin := hwork.flag.trans hflag
    rw [hv] at hin
    cases hin
  · obtain ⟨ms, rest, -, -, -, hcourse⟩ := id hundone
    obtain hstill | ⟨status, hclosed⟩ := hcourse.open_or_closed hopen
    · rw [begun_assumes hr hstill hv]
      exact hundone.idle (.of_move (m := .assumed scope) trivial (.assumed (unended_of_open hstill) hv))
    · rw [begun_ended hr hclosed]
      exact hundone

/-- A transaction inside another one shares the transaction of the driver. If its script returns only behind a
rollback then it leaves work that may be undone. -/
theorem undoes_run (hin : s.driver.inTransaction = true)
    (hreturns : ∀ builder t, Starts env id s builder t → ∀ x v,
      (script builder).exec env t = (.ok x, v) → v.driver.inTransaction = false)
    (hscript : ∀ builder t, Starts env id s builder t → Undoes t ((script builder).exec env t).2) :
    Undoes s ((run id script).exec env s).2 := by
  have hnew : Act.newScope.exec env s = (.ok s.scopes.size, s.opened) := rfl
  have hopened : Works s s.opened := .of_move (m := .opened) ⟨hin, trivial⟩ (.opened s)
  have hcopied : Works s.opened ((builderFor id s.scopes.size).exec env s.opened).2 :=
    Lax.quiet _ _ (quiet_builderFor id _ s.opened)
  rcases hcopy : (builderFor id s.scopes.size).exec env s.opened with ⟨outcome, t⟩
  rw [hcopy] at hcopied
  refine Undoes.trans (trans_of Works hopened hcopied).undoes ?_
  cases outcome with
  | error fault =>
      rw [run_eq, exec_bind_ok hnew, exec_bind_error hcopy]
      exact refl_of Undoes t
  | ok builder =>
      obtain ⟨hdriver, -, hopen, -⟩ := copied hcopy
      have hflag : t.driver.inTransaction = true := by rw [hdriver, hin]
      have hstarts : Starts env id s builder t := .shared hcopy hflag
      rw [exec_run_of_starts hstarts]
      have hundoes := hscript builder t hstarts
      -- the script is called inside the transaction of the driver, which decides between the two parts
      refine ⟨fun hout => ?_, fun _ ht => .inr ?_⟩
      · rw [hflag] at hout
        cases hout
      · rcases hr : (script builder).exec env t with ⟨outcome, v⟩
        rw [hr] at hundoes
        cases outcome with
        | error fault => exact (undone_of_raised hopen ht hflag hr hundoes).2
        | ok x => exact undone_of_returned hopen ht hflag hr hundoes (hreturns builder t hstarts x v hr)

end Transaction

/-! ### Scripts that commit nothing -/

/-- Statements are executed and batches inserted while the driver has a transaction open, also by the scripts of
hooks. No transaction inside returns while the driver has a transaction open. -/
def Conduct.uncommitting (env : Surroundings) : Conduct where
  own := Scripted (env.within Works)
  call s id c := Confined Works env (c.perform id) s ∧ c.purpose ≠ .finish ∧
    (c.purpose = .execute → s.driver.inTransaction = true)
  direct _ _ := False
  nested s id _ script := s.driver.inTransaction = true ∧ ∀ builder t, Transaction.Starts env id s builder t →
    ∀ x v, (script builder).exec env t = (.ok x, v) → v.driver.inTransaction = false

theorem Callback.undoes {op : Act α} (h : Callback env (.uncommitting env) op s) : Undoes s (op.exec env s).2 := by
  refine h.keeps ?_ ?_ ?_ ?_ ?_
  · intro s t hst
    have hworks : Works s t := hst.of_keeps Lax.quiet
    exact hworks.undoes
  · rintro s id c ⟨hconfined, hfinish, hexecute⟩
    rw [← hconfined]
    exact (BuilderCall.works_perform hfinish hexecute).undoes
  · exact fun _ _ hdirect => hdirect.elim
  · exact fun s id script hnested hscript => Transaction.undoes_run hnested.1 hnested.2 hscript
  · exact fun s t report inner hst => hst.resumed report inner

namespace Transaction

variable {script : Nat → Act α} {fault : Fault}

/-- An outermost transaction whose script fails is undone as a whole, whatever statements and batches it has executed
at whatever depth, if no transaction inside has returned before the rollback and nothing is executed behind it. The
driver, which could roll back at any point, is told to execute statements, which commits nothing, and at last, once, to
roll back. -/
theorem run_undone (hout : s.driver.inTransaction = false) (hstarts : Starts env id s builder t)
    (hrollback : ∀ ms, (∀ m ∈ ms, Move.Work m) → DriverCall.rollback.Succeeds (t.stage.run ms).driver)
    (hscript : Callback env (.uncommitting env) (script builder) t)
    (hr : (script builder).exec env t = (.error fault, v)) :
    ∃ ms rest u, (run id script).exec env s = (.error fault, u) ∧ u.driver.inTransaction = false ∧
      Course t (ms ++ [.call .rollback] ++ rest) u ∧ (∀ m ∈ ms, m.Work) ∧ WireEntry.commit ∉ t.stage.sent ms ∧
      DriverCall.rollback.Succeeds (t.stage.run ms).driver ∧ ∀ m ∈ rest, m.Idle := by
  have ht := hstarts.ready hout
  have hundoes : Undoes t ((script builder).exec env t).2 := hscript.undoes
  rw [hr] at hundoes
  obtain ⟨hfault, hundone⟩ := undone_of_raised ht.isOpen ⟨ht.sound, hrollback⟩ ht.flag hr hundoes
  have hflag := hundone.flag ht.sound
  obtain ⟨ms, rest, hms, hlast, hrest, hcourse⟩ := hundone
  rw [exec_run_of_starts hstarts]
  exact ⟨ms, rest, _, Prod.ext hfault rfl, hflag, hcourse, hms, Stage.not_commit_mem_sent ht.flag hms, hlast, hrest⟩

/-- A script that reads something and runs a transaction inside, which fails. -/
def nesting (builder : Nat) : Act Value := do
  let _ ← (BuilderCall.statement (.text "SELECT 1") (.list [])).perform builder
  pure (← run builder failing).2

theorem run_undone_nesting :
    (nesting 1).exec (Play.surroundings 2) (inside none) =
      (.error (.raised "boom"), ((nesting 1).exec (Play.surroundings 2) (inside none)).2) ∧
    ∃ ms rest u, (run 0 nesting).exec (Play.surroundings 2) (starting none) = (.error (.raised "boom"), u) ∧
      u.driver.inTransaction = false ∧ Course (inside none) (ms ++ [.call .rollback] ++ rest) u ∧
      (∀ m ∈ ms, m.Work) ∧ WireEntry.commit ∉ (inside none).stage.sent ms ∧
      DriverCall.rollback.Succeeds ((inside none).stage.run ms).driver ∧ ∀ m ∈ rest, m.Idle := by
  have hnesting : (nesting 1).exec (Play.surroundings 2) (inside none) =
      (.error (.raised "boom"), ((nesting 1).exec (Play.surroundings 2) (inside none)).2) := rfl
  have hfails : ∀ (builder : Nat) (t v : Session) (x : Value),
      (failing builder).exec (Play.surroundings 2) t ≠ (.ok x, v) := fun _ _ _ _ => nofun
  have hscript : Callback (Play.surroundings 2) (.uncommitting (Play.surroundings 2)) (nesting 1) (inside none) := by
    refine .bind (.call 1 _ ⟨(Unscripted.statement _ _ 1).confined _, nofun, fun _ => rfl⟩) fun x t ht => ?_
    have hflag : t.driver.inTransaction = true := (congrArg (fun r => r.2.driver.inTransaction) ht).symm
    refine .bind (.transaction 1 failing ⟨hflag, fun builder t _ x v hok => ?_⟩ fun builder t _ => .own ?_)
      fun _ t _ => .own ?_
    · exact absurd hok (hfails builder t v x)
    · exact refl_of (Scripted _) t
    · exact refl_of (Scripted _) t
  have hout : (starting none).driver.inTransaction = false := rfl
  have hundone := run_undone hout starts_inside (Stage.rollback_of_scripted rfl rfl) hscript hnesting
  exact ⟨hnesting, hundone⟩

/-- A script that runs a transaction inside, which reads something and returns, and fails behind it. -/
def failingLate (builder : Nat) : Act Value := do
  let _ ← run builder (BuilderCall.statement (.text "SELECT 1") (.list [])).perform
  failing builder

/-- The transaction inside commits, and nothing is rolled back. -/
theorem not_run_undone_late :
    ((run 0 failingLate).exec (Play.surroundings 2) (starting none)).1 = .error (.raised "boom") ∧
    ((run 0 failingLate).exec (Play.surroundings 2) (starting none)).2.journal =
      [.wire .begin, .wire (.execute (.text "SELECT 1") []), .wire .commit] := by
  have hscript : (failingLate 1).exec (Play.surroundings 2) (inside none) =
      (.error (.raised "boom"), ((failingLate 1).exec (Play.surroundings 2) (inside none)).2) := Prod.ext rfl rfl
  rw [exec_run_of_starts starts_inside, begun_raises hscript (.inl rfl)]
  exact ⟨rfl, rfl⟩

end Transaction

end SqlBuilder
