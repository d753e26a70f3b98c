import SqlBuilder.Proofs.Session.Refusing
import SqlBuilder.Proofs.Session.Unspent

/-!
Statements that a builder sends without a look at what is pending: each update, each deletion, each statement that is
given, and one for each row of an insertion. What the call gives comes from the answers to them.
-/

namespace SqlBuilder

open Act Session

variable {α : Type} {env : Surroundings} {W : Nat → Prop} {s t u : Session} {id : Nat}

namespace Execution

variable {x : Execution} {result : QueryResult} {v : Value}

/-- The execution sends its statement and goes by the answer. -/
inductive Gives (env : Surroundings) (id : Nat) (x : Execution) (s : Session) (v : Value) (u : Session) : Prop where
  | mk {result : QueryResult} {d : Driver} {insertId : Value} {w : Session} (hsends : x.Sends env id s result d)
      (hasked : (x.identify result d).1 = .ok insertId)
      (hv : (x.answer id result insertId).exec env w = (.ok v, u)) : Gives env id x s v u

theorem gives_of_exec (hx : x ≠ .select) (h : (x.call.perform id).exec env s = (.ok v, u)) : x.Gives env id s v u := by
  rw [perform_call] at h
  obtain ⟨i, t, hready, h⟩ := exec_bind_eq_ok h
  obtain ⟨result, w, hhand, h⟩ := exec_bind_eq_ok h
  have hrun : (Execute.run id i).exec env t = (.ok result, w) := by
    cases x with
    | select => exact absurd rfl hx
    | _ => exact hhand
  obtain ⟨hopen, rfl⟩ := run_eq_ok hrun
  rw [conclude_eq] at h
  obtain ⟨insertId, y, hasked, h⟩ := exec_bind_eq_ok h
  obtain ⟨_, z, -, hv⟩ := exec_bind_eq_ok h
  rw [exec_identify] at hasked
  exact .mk (.mk ⟨hready, hopen, fun hselect => absurd hselect hx⟩ (answer_of_run hrun)) (congrArg Prod.fst hasked) hv

/-- The result of a statement that is given is pending afterwards. -/
theorem owed_of_answer {sql values insertId : Value}
    (h : ((query sql values).answer id result insertId).exec env s = (.ok v, u)) : u.owed id = some result := by
  obtain ⟨_, t, hkept, h⟩ := exec_bind_eq_ok h
  cases hkept
  obtain ⟨b, w, hbuilder, h⟩ := exec_bind_eq_ok h
  obtain ⟨hb, rfl⟩ := exec_builder_eq_ok hbuilder
  cases h
  rw [owed_eq hb]
  rw [Array.getElem?_modify, if_pos rfl] at hb
  obtain ⟨b', -, rfl⟩ := Option.map_eq_some_iff.1 hb
  rfl

end Execution

/-- The rows of what is inserted, unless it is one row itself. Texts and bytes hold none. -/
def Value.rows? : Value → Option (List Value)
  | .list items | .tuple items | .set items => some items
  | .text _ | .bytes _ => some []
  | _ => none

mutual

/-- An insertion gives the identifier for one row, and for a batch what its rows give one after the other. Unless a
transaction is open, the batch has one of its own. -/
inductive Inserted (env : Surroundings) (verb : InsertVerb) : Nat → Value → Session → Value → Session → Prop where
  | row {id : Nat} {entries : List (Value × Value)} {s u : Session} {v : Value}
      (h : (Execution.insert verb entries).Gives env id s v u) : Inserted env verb id (.map entries) s v u
  | shared {id : Nat} {data : Value} {items answers : List Value} {s u : Session} (hrows : data.rows? = some items)
      (hin : s.driver.inTransaction = true) (h : InsertedAll env verb id items s answers u) :
      Inserted env verb id data s (.list answers) u
  | own {id builder : Nat} {data : Value} {items answers : List Value} {s t w u : Session}
      (hrows : data.rows? = some items) (hout : s.driver.inTransaction = false)
      (hstarts : Transaction.Starts env id s builder t) (h : InsertedAll env verb builder items t answers w)
      (hend : (Transaction.conclude builder s.scopes.size).exec env w = (.ok (), u)) :
      Inserted env verb id data s (.list answers) u

inductive InsertedAll (env : Surroundings) (verb : InsertVerb) :
    Nat → List Value → Session → List Value → Session → Prop where
  | nil {id : Nat} {s : Session} : InsertedAll env verb id [] s [] s
  | cons {id : Nat} {v answer : Value} {rest answers : List Value} {s t u : Session}
      (h : Inserted env verb id v s answer t) (hrest : InsertedAll env verb id rest t answers u) :
      InsertedAll env verb id (v :: rest) s (answer :: answers) u

end

namespace Transaction

variable {verb : InsertVerb}

theorem exec_begun_eq_ok {scope builder : Nat} {script : Nat → Act α} {ended : TransactionStatus × α}
    (h : (begun scope builder script).exec env s = (.ok ended, u)) : ∃ w,
      (script builder).exec env s = (.ok ended.2, w) ∧ (conclude builder scope).exec env w = (.ok (), u) := by
  rw [exec_begun] at h
  rcases hscript : (script builder).exec env s with ⟨outcome, w⟩
  rw [hscript] at h
  cases outcome with
  | error fault =>
      obtain ⟨_, v, -, h⟩ := exec_bind_eq_ok h
      cases h
  | ok answer =>
      obtain ⟨_, v, hend, h⟩ := exec_bind_eq_ok h
      cases h
      exact ⟨w, rfl, hend⟩

/-- A transaction that succeeds has been started for its script and has come to its end. -/
theorem exec_run_eq_ok {script : Nat → Act α} {ended : TransactionStatus × α}
    (h : (run id script).exec env s = (.ok ended, u)) : ∃ builder t w, Starts env id s builder t ∧
      (script builder).exec env t = (.ok ended.2, w) ∧ (conclude builder s.scopes.size).exec env w = (.ok (), u) := by
  rw [run_eq] at h
  obtain ⟨scope, v, hnew, h⟩ := exec_bind_eq_ok h
  cases hnew
  obtain ⟨builder, t, hcopy, h⟩ := exec_bind_eq_ok h
  rw [exec_bind, exec_get] at h
  dsimp only at h
  split at h
  · rename_i hin
    obtain ⟨w, hscript, hend⟩ := exec_begun_eq_ok h
    exact ⟨builder, t, w, .shared hcopy hin, hscript, hend⟩
  · rename_i hout
    obtain ⟨_, v, hbegin, h⟩ := exec_bind_eq_ok h
    obtain ⟨w, hscript, hend⟩ := exec_begun_eq_ok h
    exact ⟨builder, v, w, .begun hcopy (Bool.eq_false_iff.2 hout) hbegin, hscript, hend⟩

theorem inserted_batch {data answer : Value} {items : List Value} {rows : Nat → Act (List Value)}
    (hrows : data.rows? = some items)
    (hall : ∀ builder t answers w, (rows builder).exec env t = (.ok answers, w) →
      InsertedAll env verb builder items t answers w)
    (h : (batch id rows).exec env s = (.ok answer, u)) : Inserted env verb id data s answer u := by
  unfold batch at h
  rw [exec_bind, exec_get] at h
  dsimp only at h
  split at h
  · rename_i hin
    obtain ⟨answers, w, hanswers, h⟩ := exec_bind_eq_ok h
    cases h
    exact .shared hrows hin (hall id s answers _ hanswers)
  · rename_i hout
    obtain ⟨ended, w, hrun, h⟩ := exec_bind_eq_ok h
    cases h
    obtain ⟨builder, t, v, hstarts, hscript, hend⟩ := exec_run_eq_ok hrun
    exact .own hrows (Bool.eq_false_iff.2 hout) hstarts (hall builder t _ v hscript) hend

mutual

theorem inserted_of_exec (verb : InsertVerb) (id : Nat) (data : Value) {answer : Value} {s u : Session}
    (h : (insert verb id data).exec env s = (.ok answer, u)) : Inserted env verb id data s answer u := by
  unfold insert at h
  split at h
  · rename_i entries
    refine .row (Execution.gives_of_exec Execution.noConfusion ?_)
    rw [Execution.call, BuilderCall.perform, insert]
    exact h
  · exact inserted_batch rfl (fun builder _ _ _ => insertedAll_of_exec verb builder _) h
  · exact inserted_batch rfl (fun builder _ _ _ => insertedAll_of_exec verb builder _) h
  · exact inserted_batch rfl (fun builder _ _ _ => insertedAll_of_exec verb builder _) h
  · refine inserted_batch rfl (fun builder t answers w hnone => ?_) h
    split at hnone
    · cases hnone
      exact .nil
    · cases hnone
  · refine inserted_batch rfl (fun builder t answers w hnone => ?_) h
    split at hnone
    · cases hnone
      exact .nil
    · cases hnone
  · cases h

theorem insertedAll_of_exec (verb : InsertVerb) (id : Nat) (vs : List Value) {answers : List Value} {s u : Session}
    (h : (insertAll verb id vs).exec env s = (.ok answers, u)) : InsertedAll env verb id vs s answers u := by
  unfold insertAll at h
  split at h
  · cases h
    exact .nil
  · obtain ⟨answer, t, hfirst, h⟩ := exec_bind_eq_ok h
    obtain ⟨rest, w, hrest, h⟩ := exec_bind_eq_ok h
    cases h
    exact .cons (inserted_of_exec verb id _ hfirst) (insertedAll_of_exec verb id _ hrest)

end

end Transaction

namespace Execution

open Execute

variable {x : Execution}

/-- Behind the hooks nothing fails any more, so that a statement that fails leaves no result. -/
theorem unspent_of_fails [env.Keeps (Unspent W)] {fault : Fault} (hW : W id) (hid : id < s.builders.size)
    (hx : x ≠ .select) (h : (x.call.perform id).exec env s = (.error fault, u)) : Unspent W s u := by
  let front : Act (QueryResult × Value) := do
    let i ← x.ready id
    let result ← x.handOver id i
    let insertId ← x.ask result
    let _ ← fire id x.after (some i) (.map (x.outcomeArguments insertId))
    pure (result, insertId)
  have hsplit : x.call.perform id = front >>= fun made => x.answer id made.1 made.2 := by
    simp only [front, perform_call, conclude_eq, bind_assoc, pure_bind]
  have hhand : ∀ i, Keeps (Unspent W) env (x.handOver id i) := by
    intro i
    cases x with
    | select => exact absurd rfl hx
    | _ => exact keeps_statement _ _ _
  have hask : ∀ result, Keeps (Unspent W) env (x.ask result) := by
    intro result
    unfold ask
    split
    · exact keeps_askInsertId
    · exact .pure _
  have hfront : Keeps (Unspent W) env front :=
    .bind (unspent_ready id x) fun _ => .bind (hhand _) fun _ => .bind (hask _) fun _ =>
      .bind (Keeps.tending.fire _ _ _ _) fun _ => .pure _
  rw [hsplit] at h
  rcases hmade : front.exec env s with ⟨outcome, t⟩
  have hst : Unspent W s t := hfront.of_exec hmade
  cases outcome with
  | error fault =>
      rw [exec_bind_error hmade] at h
      cases h
      exact hst
  | ok made =>
      obtain ⟨b, hb, -⟩ := hst.pending id hW _ (Array.getElem?_eq_getElem hid)
      obtain ⟨ended, v, hanswer, -, -, hends⟩ : ∃ ended v, (x.answer id made.1 made.2).exec env t = (ended, v) ∧
          v.driver = t.driver ∧ v.journal = t.journal ∧ (x ≠ .select → ∃ y, ended = .ok y) :=
        exec_answer made.1 made.2 x hb
      obtain ⟨answer, rfl⟩ := hends hx
      rw [exec_bind_ok hmade, hanswer] at h
      cases h

end Execution

end SqlBuilder
