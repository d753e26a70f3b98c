import SqlBuilder.Proofs.Session.Transacting

/-!
The calls of builders by what they are for. Most of them declare or compile, and those do not look at the scopes of
transactions at all. Whatever is called keeps a relation that transactions keep.
-/

namespace SqlBuilder

open Act Session

variable {α : Type} {env : Surroundings} {R : Session → Session → Prop}

namespace BuilderCall

/-- What declares or compiles does not look at the scopes. -/
theorem blind_perform {g : Guise env} (id : Nat) {c : BuilderCall} (hc : c.purpose = .declare) :
    Blind g (c.perform id) := Blind.working.perform id hc

theorem blind_scopeOf {g : Guise env} (id : Nat) : Blind g (scopeOf id) := Blind.working.scopeOf id

/-- What the call inserts, be it only if there is nothing to update. -/
def inserted? : BuilderCall → Option (InsertVerb × Value)
  | .insert verb data => some (verb, data)
  | .updateOrInsert data => some (.insert, data)
  | _ => none

/-- The call leaves the result of a statement with a builder, or may take one that is pending. -/
def handlesResults : BuilderCall → Bool
  | query _ _ | fetchAll | first | find _ _ | findAll _ _ | count _ | aggregate _ _ | updateOrInsert _ => true
  | _ => false

section Keeps

variable [IsPreorder Session R]

theorem keeps_scopeOf (id : Nat) : Keeps R env (scopeOf id) := by
  refine .bind (.builder _) fun _ => ?_
  split
  · exact .pure _
  · exact .throw _

theorem keeps_scopeStatusOf (id : Nat) {k : Option TransactionStatus → Act Value}
    (hk : ∀ status, Keeps R env (k status)) : Keeps R env (do k (← Act.scopeStatus (← scopeOf id))) :=
  .bind (keeps_scopeOf _) fun _ => .bind (Execute.keeps_scopeStatus _) hk

variable [env.Minds R]

theorem keeps_declaring (id : Nat) {change : Act Unit} (h : Keeps R env change) :
    Keeps R env (declaring id change) := .bind h fun _ => Keeps.minding.builderValue _

theorem keeps_found (id : Nat) (field operator operand : Value) {k : Unit → Act Value}
    (hk : ∀ x, Keeps R env (k x)) : Keeps R env (Declare.condition id "AND" field operator operand >>= k) :=
  .bind (Keeps.minding.condition _ _ _ _ _) hk

section Executes

variable [env.Executes R] [env.Takes R]

theorem updateOrInsert_at {s : Session} (id : Nat) (data : Value)
    (hinsert : ∀ t, R s t → R t ((Transaction.insert .insert id data).exec env t).2) :
    R s ((Transaction.updateOrInsert id data).exec env s).2 := by
  have hclone : Keeps R env (Declare.clone env.depth id) := Keeps.minding.clone _ _
  unfold Transaction.updateOrInsert
  rw [exec_bind, exec_read]
  refine hclone.bind_at fun probe t ht => ?_
  have hst := hclone.of_exec ht
  refine trans_of R hst (Keeps.bind_at (Execute.keeps_first _) fun row u hu => ?_)
  have htu : R t u := (Execute.keeps_first _).of_exec hu
  split
  · exact trans_of R htu (hinsert u (trans_of R hst htu))
  · exact trans_of R htu (Keeps.bind (Execute.keeps_update _ _) (fun _ => .pure _) u)

/-- A call that neither declares nor inserts nor ends a transaction keeps what the execution of statements keeps. -/
theorem perform_at (s : Session) (id : Nat) (c : BuilderCall)
    (hdeclare : c.purpose = .declare → R s ((c.perform id).exec env s).2)
    (hfinish : c.purpose = .finish → R s ((c.perform id).exec env s).2)
    (hinsert : ∀ verb data, c.inserted? = some (verb, data) → ∀ t, R s t →
      R t ((Transaction.insert verb id data).exec env t).2) : R s ((c.perform id).exec env s).2 := by
  cases c with
  | query sql values => exact keeps_declaring _ (Execute.keeps_query _ _ _) s
  | statement sql values => exact Keeps.bind (Execute.keeps_statement _ _ _) (fun _ => .pure _) s
  | fetchAll => exact Keeps.bind (Execute.keeps_fetchAll _) (fun _ => .pure _) s
  | first => exact Execute.keeps_first _ s
  | find v field => exact keeps_found _ _ _ _ (fun _ => Execute.keeps_first _) s
  | findAll field v =>
      exact keeps_found _ _ _ _ (fun _ => .bind (Execute.keeps_fetchAll _) fun _ => .pure _) s
  | count field => exact Keeps.bind (Execute.keeps_aggregate _ _ _) (fun _ => .lift _) s
  | aggregate function field => exact Execute.keeps_aggregate _ _ _ s
  | insert verb data => exact hinsert verb data rfl s (refl_of R s)
  | update data => exact Keeps.bind (Execute.keeps_update _ _) (fun _ => .pure _) s
  | updateOrInsert data => exact updateOrInsert_at id data (hinsert .insert data rfl)
  | delete columns => exact Keeps.bind (Execute.keeps_delete _ _) (fun _ => .pure _) s
  | commit => exact hfinish rfl
  | rollback => exact hfinish rfl
  | isClosed => exact keeps_scopeStatusOf _ (fun _ => .pure _) s
  | status => exact keeps_scopeStatusOf _ (fun _ => .pure _) s
  | _ => exact hdeclare rfl

end Executes

omit [env.Minds R] in
theorem keeps_finish [env.Encloses R] (id : Nat) (status : TransactionStatus) : Keeps R env (silently do
    let _ ← scopeOf id
    Transaction.finish id status) :=
  .bind (.bind (keeps_scopeOf _) fun _ => Transaction.keeps_finish _ _) fun _ => .pure _

omit [env.Minds R] in
/-- A call that neither leaves a result with a builder nor takes one. -/
theorem keeps_perform_idle [env.Tends R] [env.Encloses R] (id : Nat) {c : BuilderCall} (hc : c.handlesResults = false) :
    Keeps R env (c.perform id) := by
  cases c with
  | query | fetchAll | first | find | findAll | count | aggregate | updateOrInsert => cases hc
  | statement sql values => exact .bind (Execute.keeps_statement _ _ _) fun _ => .pure _
  | insert verb data => exact Transaction.keeps_insert verb id data
  | update data => exact .bind (Execute.keeps_update _ _) fun _ => .pure _
  | delete columns => exact .bind (Execute.keeps_delete _ _) fun _ => .pure _
  | commit => exact keeps_finish _ _
  | rollback => exact keeps_finish _ _
  | isClosed => exact keeps_scopeStatusOf _ fun _ => .pure _
  | status => exact keeps_scopeStatusOf _ fun _ => .pure _
  | _ => exact Keeps.tending.perform _ rfl

theorem keeps_perform_of_declare [env.Takes R] [env.Transacts R] (id : Nat) (c : BuilderCall)
    (hdeclare : c.purpose = .declare → Keeps R env (c.perform id)) : Keeps R env (c.perform id) := by
  intro s
  refine perform_at s id c (fun hc => hdeclare hc s) (fun hc => ?_) fun verb data _ t _ =>
    Transaction.keeps_insert verb id data t
  cases c with
  | commit => exact keeps_finish _ _ s
  | rollback => exact keeps_finish _ _ s
  | _ => cases hc

/-- A call that does not let the builder refer to another one. -/
theorem keeps_perform_untied [env.Takes R] [env.Transacts R] (id : Nat) {c : BuilderCall} (hties : ¬ c.Ties) :
    Keeps R env (c.perform id) :=
  keeps_perform_of_declare id c fun hc => Keeps.minding.perform id hc hties

omit [env.Minds R] in
theorem keeps_perform [env.Declares R] [env.Transacts R] (id : Nat) (c : BuilderCall) : Keeps R env (c.perform id) :=
  keeps_perform_of_declare id c fun hc => Keeps.working.perform id hc

end Keeps

end BuilderCall

namespace ConnectionCall

variable [IsPreorder Session R] [env.Transacts R]

theorem keeps_driver (c : DriverCall) {operation : Driver → Except Fault Unit × Driver × List WireEntry}
    (h : ∀ d, (operation d).2 = (c.on d).2) : Keeps R env (silently (Act.driver operation)) :=
  .bind (Transaction.keeps_called c h) fun _ => .pure _

theorem keeps_perform [env.Minds R] (c : ConnectionCall) : Keeps R env c.perform := by
  cases c with
  | newBuilder kind =>
      refine .bind ?_ fun _ => .bind (Keeps.minding.newBuilder _) fun _ => Keeps.minding.builderValue _
      cases kind with
      | transaction => exact .bind Transaction.keeps_newScope fun _ => .pure _
      | _ => exact .pure _
  | lastQuery => exact .bind .get fun _ => .pure _
  | lastText =>
      refine .bind .get fun _ => ?_
      split
      · split
        · exact .pure _
        · exact .throw _
      · exact .throw _
  | inTransaction => exact .bind .get fun _ => .pure _
  | close => exact keeps_driver .close fun _ => rfl
  | driverExecute sql values =>
      refine .bind .get fun _ => .bind (.lift _) fun _ => .bind (.lift _) fun values => ?_
      exact .bind (Transaction.keeps_called (.execute sql values) fun _ => rfl) fun _ => .pure _
  | driverQuote v => exact .bind .get fun _ => .bind (.lift _) fun _ => .pure _
  | driverBegin => exact keeps_driver .begin fun _ => rfl
  | driverCommit => exact keeps_driver .commit fun _ => rfl
  | driverRollback => exact keeps_driver .rollback fun _ => rfl
  | driverInsertId =>
      have hasked : Keeps R env (Act.driver Driver.lastInsertId) :=
        Transaction.keeps_called .askInsertId fun _ => rfl
      exact hasked
  | identifier v => exact .bind Keeps.minding.dialect fun _ => .lift _
  | tableName v =>
      refine .bind Keeps.minding.dialect fun _ => ?_
      split
      · exact .lift _
      · exact .bind (.lift _) fun _ => .pure _
  | nameList names glue wraps => exact .bind Keeps.minding.dialect fun _ => .lift _
  | rawBindings pieces => exact Keeps.lift (R := R) (bindingsOf pieces)
  | registerHook event hook table => exact .bind (Keeps.minding.register _ _ _) fun _ => .pure _
  | removeHook event table => exact .bind (Keeps.minding.remove _ _) fun _ => .pure _
  | findHook event table => exact Keeps.minding.find _ _
  | hooks => exact .bind .get fun _ => .pure _

end ConnectionCall

end SqlBuilder
