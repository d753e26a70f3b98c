import SqlBuilder.Proofs.Session.Answers
import SqlBuilder.Proofs.Session.LastStatement
import SqlBuilder.Proofs.Session.Pending

/-!
What a pending result has a part in. The next fetch of its builder gives its rows, and so does a function over rows
that the builder selects itself. Whatever else a builder executes, it sends a statement of its own and goes by the
answer to that.
-/

namespace SqlBuilder

open Act Session

variable {env : Surroundings} {W : Nat → Prop} {r : Option QueryResult} {s t u : Session} {id : Nat} {c : BuilderCall}

/-! ### Operations -/

/-- The operation has come by its value: a fetch or a function over the builder's own rows may have taken the given
result in place of them; anything else goes by the answers to statements that it has sent. -/
inductive Served (env : Surroundings) (r : Option QueryResult) (id : Nat) (s : Session) :
    BuilderCall → Value → Session → Prop where
  | fetched {c : BuilderCall} {v : Value} {u : Session} (h : Fetched env r id s c v u) : Served env r id s c v u
  | summarized {c : BuilderCall} {function : String} {field v : Value} {rows : List Row} {w u : Session}
      (hc : c.summary? = some (function, field)) (hrows : Summarized env r id s function field rows)
      (hv : (c.summarized rows).exec env w = (.ok v, u)) : Served env r id s c v u
  | executed {x : Execution} {v : Value} {u : Session} (hx : x ≠ .select) (h : x.Gives env id s v u) :
      Served env r id s x.call v u
  | inserted {verb : InsertVerb} {data v : Value} {u : Session} (h : Inserted env verb id data s v u) :
      Served env r id s (.insert verb data) v u
  /-- A copy of the builder has found a row. -/
  | found {copy : Nat} {data row v : Value} {t w u : Session}
      (hcopy : (Declare.clone env.depth id).exec env s = (.ok copy, t))
      (hprobe : Fetched env none copy t .first row w) (hrow : row.isNull = false)
      (h : (Execution.update data).Gives env id w v u) : Served env r id s (.updateOrInsert data) v u
  /-- A copy of the builder has found no row. -/
  | missing {copy : Nat} {data row v : Value} {t w u : Session}
      (hcopy : (Declare.clone env.depth id).exec env s = (.ok copy, t))
      (hprobe : Fetched env none copy t .first row w) (hrow : row.isNull = true)
      (h : Inserted env .insert id data w v u) : Served env r id s (.updateOrInsert data) v u

/-- The scripts that run on the way leave results alone. -/
theorem Transaction.served_updateOrInsert (hnew : ∀ k, s.builders.size ≤ k → W k) {data v : Value}
    (hscripts : Confined (Unspent W) env (updateOrInsert id data) s)
    (h : (updateOrInsert id data).exec env s = (.ok v, u)) : Served env r id s (.updateOrInsert data) v u := by
  unfold updateOrInsert at hscripts h
  -- up to the probe the scripts are those that keep to the relation, and behind it results play no part
  have hwithin := hscripts.trans h
  obtain ⟨surroundings, _, hread, hwithin⟩ := exec_bind_eq_ok hwithin
  cases hread
  obtain ⟨copy, t, hcopy, hwithin⟩ := exec_bind_eq_ok hwithin
  obtain ⟨row, w, hprobe, -⟩ := exec_bind_eq_ok hwithin
  have hfetched := (unspent_probe hnew hcopy hprobe).2 row rfl
  have hcopy' : (Declare.clone env.depth id).exec env s = (.ok copy, t) := Widens.clone _ _ _ _ _ hcopy
  have hprobe' : (Execute.first copy).exec env t = (.ok row, w) := Execute.widens_first _ _ _ _ hprobe
  rw [exec_bind, exec_read] at h
  dsimp only at h
  rw [exec_bind_ok hcopy', exec_bind_ok hprobe'] at h
  split at h
  · rename_i hrow
    exact .missing hcopy' hfetched.widen hrow (inserted_of_exec .insert id data h)
  · rename_i hrow
    have hupdate : (Execution.update data).Gives env id w v u :=
      Execution.gives_of_exec (x := .update data) Execution.noConfusion h
    exact .found hcopy' hfetched.widen (Bool.eq_false_iff.2 hrow) hupdate

namespace BuilderCall

section Owed

variable [env.Keeps (Unspent W)] (hW : W id) (hnew : ∀ k, s.builders.size ≤ k → W k) (hid : id < s.builders.size)
  {outcome : Except Fault Value} (hexec : (c.perform id).exec env s = (outcome, u))

include hW hid hexec

/-- What is pending for the builder is taken by a selection at most. -/
theorem owed_of_fetches (hc : c.fetches (s.declared id) = true) : Spends W id s u ∧ ∀ v, outcome = .ok v →
    u.owed id = none := by
  have hb := Array.getElem?_eq_getElem hid
  have hfetch : ∀ {c : BuilderCall} {front : Act Unit}, c.front? id = some front →
      (c.perform id).exec env s = (outcome, u) → Spends W id s u ∧ ∀ v, outcome = .ok v → u.owed id = none :=
    fun hfront hexec => ⟨(taking_fetch hW hfront).of_exec hexec hid,
      fun v hv => (fetched_of_exec hW hid hfront (hv ▸ hexec)).1⟩
  have hsummary : ∀ {c : BuilderCall} {function : String} {field : Value}, c.summary? = some (function, field) →
      (c.perform id).exec env s = (outcome, u) → (s.declared id).shapesRows = false →
      Spends W id s u ∧ ∀ v, outcome = .ok v → u.owed id = none := by
    intro c function field hsummary hexec hplain
    obtain ⟨htaking, htaken⟩ := summary_of_plain hsummary hW hb hexec hplain
    exact ⟨htaking hid, fun v hv => (htaken v hv).1⟩
  cases c with
  | fetchAll | first | find | findAll => exact hfetch rfl hexec
  | count field => exact hsummary rfl hexec (by simpa [fetches] using hc)
  | aggregate function field => exact hsummary rfl hexec (by simpa [fetches] using hc)
  | _ => cases hc

include hnew

/-- Nothing else touches it, but for a statement that is given. -/
theorem unspent_of_not_fetches (hc : c.fetches (s.declared id) = false)
    (hquery : ∀ sql values v, c = .query sql values → outcome ≠ .ok v) : Unspent W s u := by
  have hb := Array.getElem?_eq_getElem hid
  cases c with
  | fetchAll | first | find | findAll => cases hc
  | count field => exact (summary_of_shapes (r := none) rfl hW hb hexec hnew (by simpa [fetches] using hc)).1
  | aggregate function field =>
      exact (summary_of_shapes (r := none) rfl hW hb hexec hnew (by simpa [fetches] using hc)).1
  | updateOrInsert data => exact Transaction.unspent_updateOrInsert hnew hexec
  | query sql values =>
      cases outcome with
      | ok v => exact absurd rfl (hquery sql values v rfl)
      | error fault =>
          exact Execution.unspent_of_fails (x := .query sql values) hW hid Execution.noConfusion hexec
  | _ => exact (keeps_perform_idle id rfl).of_exec hexec

end Owed

/-! ### Where values come from -/

section Served

variable (hid : id < s.builders.size) {v : Value} (hscripts : Confined (Unspent W) env (c.perform id) s)
  (hexec : (c.perform id).exec env s = (.ok v, u))

include hid hscripts hexec

theorem served_of_fetches (hW : W id) (hc : c.fetches (s.declared id) = true) : Served env (s.owed id) id s c v u := by
  rw [← hscripts] at hexec
  have hb := Array.getElem?_eq_getElem hid
  have hsummary : ∀ {c : BuilderCall} {function : String} {field : Value}, c.summary? = some (function, field) →
      (c.perform id).exec (env.within (Unspent W)) s = (.ok v, u) → (s.declared id).shapesRows = false →
      Served env (s.owed id) id s c v u := by
    intro c function field hsummary hexec hplain
    obtain ⟨-, rows, w, hrows, hv⟩ := (summary_of_plain hsummary hW hb hexec hplain).2 v rfl
    exact .summarized hsummary hrows.widen (widens_summarized c rows _ _ _ hv)
  cases c with
  | fetchAll | first | find | findAll => exact .fetched (fetched_of_exec hW hid rfl hexec).2.widen
  | count field => exact hsummary rfl hexec (by simpa [fetches] using hc)
  | aggregate function field => exact hsummary rfl hexec (by simpa [fetches] using hc)
  | _ => cases hc

theorem served_of_not_fetches (hW : W id) (hnew : ∀ k, s.builders.size ≤ k → W k) (hoperation : c.IsOperation)
    (hc : c.fetches (s.declared id) = false) : Served env none id s c v u := by
  have hb := Array.getElem?_eq_getElem hid
  have hsummary : ∀ {c : BuilderCall} {function : String} {field : Value}, c.summary? = some (function, field) →
      (c.perform id).exec (env.within (Unspent W)) s = (.ok v, u) → (s.declared id).shapesRows = true →
      Served env none id s c v u := by
    intro c function field hsummary hexec hshapes
    obtain ⟨rows, w, hrows, hv⟩ := (summary_of_shapes hsummary hW hb hexec hnew hshapes).2 v rfl
    exact .summarized hsummary hrows.widen (widens_summarized c rows _ _ _ hv)
  have hcall : ∀ {x : Execution}, x ≠ .select → (x.call.perform id).exec env s = (.ok v, u) →
      Served env none id s x.call v u := fun hx hexec => .executed hx (Execution.gives_of_exec hx hexec)
  obtain ⟨hpurpose, hstatement⟩ := hoperation
  cases c with
  | statement sql values => exact absurd rfl (hstatement sql values)
  | fetchAll | first | find | findAll => cases hc
  | count field => exact hsummary rfl (hscripts.trans hexec) (by simpa [fetches] using hc)
  | aggregate function field => exact hsummary rfl (hscripts.trans hexec) (by simpa [fetches] using hc)
  | query sql values => exact hcall (x := .query sql values) Execution.noConfusion hexec
  | update data => exact hcall (x := .update data) Execution.noConfusion hexec
  | delete columns => exact hcall (x := .delete columns) Execution.noConfusion hexec
  | insert verb data => exact .inserted (Transaction.inserted_of_exec verb id data hexec)
  | updateOrInsert data => exact Transaction.served_updateOrInsert hnew hscripts hexec
  | _ => cases hpurpose

end Served

end BuilderCall

namespace Session

/-- The builder and all that come up from now on. -/
def Watched (s : Session) (id k : Nat) : Prop := k = id ∨ s.builders.size ≤ k

theorem watched_self (s : Session) (id : Nat) : s.Watched id id := .inl rfl

theorem watched_new (id : Nat) {k : Nat} (h : s.builders.size ≤ k) : s.Watched id k := .inr h

/-- Calls of a builder, whatever comes of them, with anything in between that leaves its result alone, and the result
that is pending in the end: that of the last statement that was given, unless it has been taken since. -/
inductive Ledger (env : Surroundings) (id : Nat) (s : Session) : Session → Option QueryResult → Prop where
  | start : Ledger env id s s (s.owed id)
  | between {t u : Session} {r : Option QueryResult} (h : Ledger env id s t r)
      (hsize : t.builders.size ≤ u.builders.size) (howed : u.owed id = t.owed id) : Ledger env id s u r
  /-- A statement that is given leaves its result. -/
  | asked {t u : Session} {r : Option QueryResult} {sql values v : Value} {result : QueryResult} {d : Driver}
      (h : Ledger env id s t r) (hsends : (Execution.query sql values).Sends env id t result d)
      (hcall : ((BuilderCall.query sql values).perform id).exec env t = (.ok v, u)) : Ledger env id s u (some result)
  /-- A fetch that succeeds takes it. -/
  | taken {t u : Session} {r : Option QueryResult} {c : BuilderCall} {v : Value} (h : Ledger env id s t r)
      (hc : c.fetches (t.declared id) = true) (hscripts : Confined (Unspent (t.Watched id)) env (c.perform id) t)
      (hcall : (c.perform id).exec env t = (.ok v, u)) : Ledger env id s u none
  /-- A fetch that fails may have taken it. -/
  | missed {t u : Session} {r : Option QueryResult} {c : BuilderCall} {fault : Fault} (h : Ledger env id s t r)
      (hc : c.fetches (t.declared id) = true) (hscripts : Confined (Unspent (t.Watched id)) env (c.perform id) t)
      (hcall : (c.perform id).exec env t = (.error fault, u)) : Ledger env id s u (u.owed id)
  /-- No other call does anything to it. -/
  | other {t u : Session} {r : Option QueryResult} {c : BuilderCall} {outcome : Except Fault Value}
      (h : Ledger env id s t r) (hc : c.fetches (t.declared id) = false)
      (hquery : ∀ sql values v, c = .query sql values → outcome ≠ .ok v)
      (hscripts : Confined (Unspent (t.Watched id)) env (c.perform id) t)
      (hcall : (c.perform id).exec env t = (outcome, u)) : Ledger env id s u r

theorem owed_of_asked {sql values v : Value} {result : QueryResult} {d : Driver}
    (hsends : (Execution.query sql values).Sends env id s result d)
    (hcall : ((BuilderCall.query sql values).perform id).exec env s = (.ok v, u)) : u.owed id = some result := by
  obtain ⟨hreaches, hanswer⟩ := hsends
  rw [show BuilderCall.query sql values = (Execution.query sql values).call from rfl, hreaches.exec_call] at hcall
  obtain ⟨given, w, hrun, hcall⟩ := exec_bind_eq_ok hcall
  obtain rfl : given = result := Except.ok.inj ((Execution.answer_of_run hrun).symm.trans hanswer)
  rw [Execution.conclude_eq] at hcall
  obtain ⟨insertId, x, -, hcall⟩ := exec_bind_eq_ok hcall
  obtain ⟨_, y, -, hcall⟩ := exec_bind_eq_ok hcall
  exact Execution.owed_of_answer hcall

theorem lt_of_owed {result : QueryResult} (h : s.owed id = some result) : id < s.builders.size := by
  obtain ⟨b, hb, -⟩ := Option.bind_eq_some_iff.1 h
  exact (Array.getElem?_eq_some_iff.1 hb).1

theorem Ledger.owed (hid : id < s.builders.size) (h : Ledger env id s t r) :
    id < t.builders.size ∧ t.owed id = r := by
  induction h with
  | start => exact ⟨hid, rfl⟩
  | between h hsize howed ih => exact ⟨Nat.lt_of_lt_of_le ih.1 hsize, howed.trans ih.2⟩
  | asked h hsends hcall ih =>
      have howed := owed_of_asked hsends hcall
      exact ⟨lt_of_owed howed, howed⟩
  | @taken t u r c v h hc hscripts hcall ih =>
      rw [← hscripts] at hcall
      obtain ⟨hspends, htaken⟩ := BuilderCall.owed_of_fetches (t.watched_self id) ih.1 hcall hc
      exact ⟨Nat.lt_of_lt_of_le ih.1 hspends.size, htaken _ rfl⟩
  | @missed t u r c fault h hc hscripts hcall ih =>
      rw [← hscripts] at hcall
      obtain ⟨hspends, -⟩ := BuilderCall.owed_of_fetches (t.watched_self id) ih.1 hcall hc
      exact ⟨Nat.lt_of_lt_of_le ih.1 hspends.size, rfl⟩
  | @other t u r c outcome h hc hquery hscripts hcall ih =>
      rw [← hscripts] at hcall
      have hunspent : Unspent (t.Watched id) t u :=
        BuilderCall.unspent_of_not_fetches (t.watched_self id) (fun _ => watched_new id) ih.1 hcall hc hquery
      exact ⟨Nat.lt_of_lt_of_le ih.1 hunspent.size, (hunspent.owed (t.watched_self id) ih.1).trans ih.2⟩

/-- At each point of a sequence of calls whose scripts leave results alone, the result that is pending for the builder
is that of the last statement that was given, as long as nothing has taken it. An operation that does not select the
builder's own rows sends statements of its own in any case and goes by their answers. Any other takes the pending
result, if there is one, and otherwise it sends its own statement as well. -/
theorem served_of_ledger (hid : id < s.builders.size) (h : Ledger env id s t r) :
    t.owed id = r ∧
    ∀ (c : BuilderCall) (outcome : Except Fault Value) (u : Session), c.IsOperation →
      Confined (Unspent (t.Watched id)) env (c.perform id) t → (c.perform id).exec env t = (outcome, u) →
      (c.fetches (t.declared id) = false → ∀ v, outcome = .ok v → Served env none id t c v u) ∧
      (c.fetches (t.declared id) = true → (u.owed id = r ∨ u.owed id = none) ∧
        ∀ v, outcome = .ok v → u.owed id = none ∧ Served env r id t c v u) := by
  obtain ⟨hlt, rfl⟩ := h.owed hid
  refine ⟨rfl, fun c outcome u hoperation hscripts hcall => ⟨fun hc v hv => ?_, fun hc => ?_⟩⟩
  · subst hv
    exact BuilderCall.served_of_not_fetches hlt hscripts hcall (t.watched_self id) (fun _ => watched_new id)
      hoperation hc
  · obtain ⟨hspends, htaken⟩ := BuilderCall.owed_of_fetches (t.watched_self id) hlt (hscripts.trans hcall) hc
    refine ⟨hspends.owed, fun v hv => ⟨htaken v hv, ?_⟩⟩
    subst hv
    exact BuilderCall.served_of_fetches hlt hscripts hcall (t.watched_self id) hc

/-- The database answers with one row, and then with another one. -/
def answering : Session :=
  { twoTables with
    driver := .scripted ⟨.mysql, [⟨none, some [[(.text "field", .int 7)]], .int 1, none⟩,
      ⟨none, some [[(.text "field", .int 3)]], .int 1, none⟩], none, none, none, 0, .null, false⟩ }

def asked : Session := ((selectingOne.perform 0).exec (.scriptless 2) answering).2

def addingOne : BuilderCall := .insert .insert (.map [(.text "name", .text "Ada")])

def firstNumber (result : QueryResult) : Option Int :=
  (result.rows.head?.bind (Value.lookup? (.text "field"))).bind Value.asInt?

/-- An insertion leaves the result of the statement that was given for the fetch behind it. -/
theorem served_of_ledger_insert : ∃ (t u : Session) (result : QueryResult) (v : Value),
    ((addingOne.perform 0).exec (.scriptless 2) asked).2 = t ∧ Ledger (.scriptless 2) 0 answering t (some result) ∧
    firstNumber result = some 7 ∧ (BuilderCall.fetchAll.perform 0).exec (.scriptless 2) t = (.ok v, u) ∧
    u.owed 0 = none ∧ Served (.scriptless 2) (some result) 0 t .fetchAll v u := by
  let t := ((addingOne.perform 0).exec (.scriptless 2) asked).2
  obtain ⟨hqueries, hnumber, hfetches⟩ :
      ((selectingOne.perform 0).exec (.scriptless 2) answering).1.toOption.map (fun _ => ()) = some () ∧
      (asked.owed 0).bind firstNumber = some 7 ∧
      ((BuilderCall.fetchAll.perform 0).exec (.scriptless 2) t).1.toOption.map (fun _ => ()) = some () := by
    decide +kernel
  obtain ⟨_, hquery, -⟩ := exec_eq_ok _ _ _ _ hqueries
  obtain ⟨v, hfetch, -⟩ := exec_eq_ok _ _ _ _ hfetches
  obtain @⟨result, _, _, _, hsends, -, -⟩ :=
    Execution.gives_of_exec (x := .query (.text "SELECT 1") (.list [])) Execution.noConfusion hquery
  have hasked : Ledger (.scriptless 2) 0 answering asked (some result) := .asked .start hsends hquery
  have hadded : Ledger (.scriptless 2) 0 answering t (some result) :=
    .other (c := addingOne) hasked rfl (fun _ _ _ h => nomatch h) (.of_keeps _ _) rfl
  obtain ⟨-, hserved⟩ := served_of_ledger (by decide) hadded
  obtain ⟨-, hfetched⟩ :=
    hserved .fetchAll _ _ ⟨rfl, fun _ _ => BuilderCall.noConfusion⟩ (.of_keeps _ _) hfetch
  obtain ⟨hnone, hvalue⟩ := (hfetched rfl).2 v rfl
  refine ⟨t, _, result, v, rfl, hadded, ?_, hfetch, hnone, hvalue⟩
  rw [show asked.owed 0 = some result from owed_of_asked hsends hquery] at hnumber
  exact hnumber

/-- A count takes the result of the statement that was given and sends nothing, and the fetch behind it has to send a
statement of its own. -/
theorem not_served_of_pending : ∃ (t u : Session) (v w : Value),
    ((BuilderCall.count (.text "*")).perform 0).exec (.scriptless 2) asked = (.ok v, t) ∧ v.asInt? = some 7 ∧
    t.journal.map Execution.summary = [some "SELECT 1"] ∧
    (BuilderCall.fetchAll.perform 0).exec (.scriptless 2) t = (.ok w, u) ∧
    u.journal.map Execution.summary = [some "SELECT 1", some "SELECT * FROM `people`"] := by
  let t := (((BuilderCall.count (.text "*")).perform 0).exec (.scriptless 2) asked).2
  let u := ((BuilderCall.fetchAll.perform 0).exec (.scriptless 2) t).2
  obtain ⟨hcounts, hsilent, hfetches, hsent⟩ :
      (((BuilderCall.count (.text "*")).perform 0).exec (.scriptless 2) asked).1.toOption.map Value.asInt? =
        some (some 7) ∧
      t.journal.map Execution.summary = [some "SELECT 1"] ∧
      ((BuilderCall.fetchAll.perform 0).exec (.scriptless 2) t).1.toOption.map (fun _ => ()) = some () ∧
      u.journal.map Execution.summary = [some "SELECT 1", some "SELECT * FROM `people`"] := by
    decide +kernel
  obtain ⟨v, hcount, hseven⟩ := exec_eq_ok _ _ _ _ hcounts
  obtain ⟨w, hfetch, -⟩ := exec_eq_ok _ _ _ _ hfetches
  exact ⟨t, u, v, w, hcount, hseven, hsilent, hfetch, hsent⟩

end Session

end SqlBuilder
