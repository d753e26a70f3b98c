import SqlBuilder.Proofs.Session.Calling
import SqlBuilder.Session.Play

/-!
The scripts that transactions run, in terms of what they may do: work things out by themselves, call builders and the
connection, run transactions inside, catch failures and put calls on record. Each step may depend on what the steps
before have given.
-/

namespace SqlBuilder

open Act Session

variable {α β : Type} {env : Surroundings} {R : Session → Session → Prop}

/-- What a script may do, by the state in which it does that. -/
structure Conduct where
  /-- What it may change by itself. -/
  own : Session → Session → Prop
  call : Session → Nat → BuilderCall → Prop
  direct : Session → ConnectionCall → Prop
  /-- The transactions that it may run inside, on the given builder. -/
  nested : Session → Nat → {α : Type} → (Nat → Act α) → Prop

/-- Everything is allowed. By itself a script does not reach the driver, though the scripts of groups may. -/
def Conduct.any (env : Surroundings) : Conduct where
  own := Scripted env
  call _ _ _ := True
  direct _ _ := True
  nested _ _ _ _ := True

/-- From the given state on, the operation does nothing that is not allowed. -/
inductive Callback (env : Surroundings) (conduct : Conduct) : {α : Type} → Act α → Session → Prop where
  | own {α : Type} {op : Act α} {s : Session} (h : conduct.own s (op.exec env s).2) : Callback env conduct op s
  | bind {α β : Type} {op : Act α} {k : α → Act β} {s : Session} (hop : Callback env conduct op s)
      (hk : ∀ x t, op.exec env s = (.ok x, t) → Callback env conduct (k x) t) : Callback env conduct (op >>= k) s
  | tryCatch {α : Type} {op : Act α} {handler : Fault → Act α} {s : Session} (hop : Callback env conduct op s)
      (hhandler : ∀ fault t, op.exec env s = (.error fault, t) → Callback env conduct (handler fault) t) :
      Callback env conduct (MonadExcept.tryCatch op handler) s
  | call {s : Session} (id : Nat) (c : BuilderCall) (h : conduct.call s id c) : Callback env conduct (c.perform id) s
  | direct {s : Session} (c : ConnectionCall) (h : conduct.direct s c) : Callback env conduct c.perform s
  | transaction {α : Type} {s : Session} (id : Nat) (script : Nat → Act α) (h : conduct.nested s id script)
      (hscript : ∀ builder t, Transaction.Starts env id s builder t → Callback env conduct (script builder) t) :
      Callback env conduct (Transaction.run id script) s
  | recorded {s : Session} (hasInner : Bool) (operation : Act Report)
      (h : Callback env conduct operation s.aside) :
      Callback env conduct (Play.recorded hasInner operation) s

/-- The journal and the records are put aside for the operation, and come back with a record of it. -/
theorem Play.exec_recorded (env : Surroundings) (hasInner : Bool) (operation : Act Report) (s : Session) :
    ∃ report inner, ((recorded hasInner operation).exec env s).2 =
      s.resumed (operation.exec env s.aside).2 report inner := by
  have hobserved : (observe operation).exec env s.aside = _ := exec_observed operation
  unfold recorded
  rw [exec_bind, exec_get]
  dsimp only
  rw [exec_bind, exec_set]
  dsimp only
  rw [show ({ s with journal := [], records := [] } : Session) = s.aside from rfl, exec_bind_ok hobserved]
  exact ⟨_, _, rfl⟩

namespace Callback

variable {conduct : Conduct}

/-- What all that is allowed keeps is kept by the script. -/
theorem keeps [IsPreorder Session R] (hown : ∀ s t, conduct.own s t → R s t)
    (hcall : ∀ s id c, conduct.call s id c → R s ((c.perform id).exec env s).2)
    (hdirect : ∀ s c, conduct.direct s c → R s (c.perform.exec env s).2)
    (hnested : ∀ {α : Type} (s : Session) (id : Nat) (script : Nat → Act α), conduct.nested s id script →
      (∀ builder t, Transaction.Starts env id s builder t → R t ((script builder).exec env t).2) →
      R s ((Transaction.run id script).exec env s).2)
    (hrecorded : ∀ s t report inner, R s.aside t → R s (s.resumed t report inner))
    {op : Act α} {s : Session} (h : Callback env conduct op s) : R s (op.exec env s).2 := by
  -- what follows an operation is looked at only in the state that the operation leads to
  induction h with
  | own h => exact hown _ _ h
  | @bind α β op k s hop hk ihop ihk =>
      rw [exec_bind]
      rcases hr : op.exec env s with ⟨outcome, t⟩
      rw [hr] at ihop
      cases outcome with
      | ok x => exact trans_of R ihop (ihk x t hr)
      | error fault => exact ihop
  | @tryCatch α op handler s hop hhandler ihop ihhandler =>
      rw [exec_tryCatch]
      rcases hr : op.exec env s with ⟨outcome, t⟩
      rw [hr] at ihop
      cases outcome with
      | ok x => exact ihop
      | error fault => exact trans_of R ihop (ihhandler fault t hr)
  | call id c h => exact hcall _ id c h
  | direct c h => exact hdirect _ c h
  | transaction id script h hscript ih => exact hnested _ id script h ih
  | recorded hasInner operation h ih =>
      obtain ⟨report, inner, hend⟩ := Play.exec_recorded env hasInner operation _
      rw [hend]
      exact hrecorded _ _ report inner ih

/-- Whatever transactions keep is kept by all that scripts may do. -/
theorem keeps_any [IsPreorder Session R] [Lax R] [env.Transacts R] {op : Act α} {s : Session}
    (h : Callback env (.any env) op s) : R s (op.exec env s).2 := by
  refine h.keeps ?_ ?_ ?_ ?_ ?_
  · exact fun s t hst => hst.of_keeps Lax.quiet
  · exact fun s id c _ => BuilderCall.keeps_perform id c s
  · exact fun s c _ => ConnectionCall.keeps_perform c s
  · exact fun s id script _ hscript => Transaction.run_at hscript
  · exact fun s t report inner => Surroundings.Transacts.resumed env s t report inner

end Callback

/-! ### Scripts of groups and hooks that keep to a relation -/

open Classical in
/-- The operation where it keeps to the relation. Elsewhere it fails and does nothing. -/
noncomputable def Run.within (R : Session → Session → Prop) (op : Run α) : Run α :=
  ExceptT.mk fun s => if R s (op.run.run s).2 then op.run.run s else (.error .tooDeep, s)

/-- The scripts of groups and hooks as far as they keep to the relation. -/
noncomputable def Surroundings.within (R : Session → Session → Prop) (env : Surroundings) : Surroundings where
  fill script target := (env.fill script target).within R
  notify name script call := (env.notify name script call).within R
  depth := env.depth

theorem Run.run_within_of_keeps {op : Run α} {s : Session} (h : R s (op.run.run s).2) :
    (op.within R).run.run s = op.run.run s := if_pos h

theorem Run.run_within_of_not {op : Run α} {s : Session} (h : ¬ R s (op.run.run s).2) :
    (op.within R).run.run s = (.error .tooDeep, s) := if_neg h

theorem Run.keeps_within [IsPreorder Session R] (op : Run α) (s : Session) : R s ((op.within R).run.run s).2 := by
  by_cases h : R s (op.run.run s).2
  · rw [run_within_of_keeps h]
    exact h
  · rw [run_within_of_not h]
    exact refl_of R s

instance [IsPreorder Session R] : (env.within R).Keeps R where
  fill script target := (env.fill script target).keeps_within
  notify name script call := (env.notify name script call).keeps_within

/-- The operation comes to the same, be the scripts that it calls kept to the relation or not. -/
def Act.Confined (R : Session → Session → Prop) (env : Surroundings) (op : Act α) (s : Session) : Prop :=
  op.exec (env.within R) s = op.exec env s

/-- The operation calls no script. -/
def Act.Unscripted (op : Act α) : Prop := ∀ env env' s, op.exec env s = op.exec env' s

theorem Act.Unscripted.confined {op : Act α} (h : Unscripted op) (s : Session) : Confined R env op s := h _ _ s

namespace Act.Unscripted

theorem pure (x : α) : Unscripted (Pure.pure x : Act α) := fun _ _ _ => rfl

theorem lift (outcome : Except Fault α) : Unscripted (Act.lift outcome) := by
  intro env env' s
  rw [exec_lift, exec_lift]

theorem bind {op : Act α} {k : α → Act β} (hop : Unscripted op) (hk : ∀ x, Unscripted (k x)) :
    Unscripted (op >>= k) := by
  intro env env' s
  rw [exec_bind, exec_bind, hop env env' s]
  rcases op.exec env' s with ⟨outcome, t⟩
  cases outcome with
  | ok x => exact hk x env env' t
  | error fault => rfl

theorem builder (id : Nat) : Unscripted (Act.builder id) := by
  intro env env' s
  rw [exec_builder, exec_builder]

theorem requireOpen (id : Nat) : Unscripted (Execute.requireOpen id) := by
  refine bind (builder id) fun b => ?_
  split
  · refine bind (bind (fun _ _ _ => rfl) fun _ => pure _) fun status => ?_
    split
    · exact fun _ _ _ => rfl
    · exact pure _
  · exact pure _

/-- Nothing runs around a statement that is handed to the driver as it is. -/
theorem handing (id : Nat) (sql values : Value) : Unscripted (Execute.statement id sql values) := by
  refine bind (requireOpen id) fun _ => bind (lift _) fun values => bind (fun env env' s => ?_) fun _ => ?_
  · rw [Execute.exec_reported, Execute.exec_reported]
  · exact bind (bind (lift _) fun _ => pure _) fun _ => pure _

theorem statement (sql values : Value) (id : Nat) : Unscripted ((BuilderCall.statement sql values).perform id) :=
  bind (handing id sql values) fun _ => pure _

end Act.Unscripted

/-! ### Operations that may be part of any script -/

namespace Act

/-- The operation does nothing but what any script may do, whatever the state. -/
def Composed (env : Surroundings) (op : Act α) : Prop := ∀ s, Callback env (.any env) op s

namespace Composed

theorem own {op : Act α} (h : Keeps (Scripted env) env op) : Composed env op := fun s => .own (h s)

theorem quiet {op : Act α} (h : Keeps Quiet env op) : Composed env op := own (h.mono fun _ _ => .quiet)

theorem blind {op : Act α} (h : Blind (Guise.plain env) op) : Composed env op := own (h.keeps fun _ => trivial)

theorem pure (x : α) : Composed env (Pure.pure x) := own (.pure x)

theorem throw (fault : Fault) : Composed env (MonadExcept.throw fault : Act α) := own (.throw fault)

theorem get : Composed env (MonadState.get : Act Session) := own .get

theorem bind {op : Act α} {k : α → Act β} (hop : Composed env op) (hk : ∀ x, Composed env (k x)) :
    Composed env (op >>= k) := fun s => .bind (hop s) fun x t _ => hk x t

theorem tryCatch {op : Act α} {handler : Fault → Act α} (hop : Composed env op)
    (hhandler : ∀ fault, Composed env (handler fault)) : Composed env (MonadExcept.tryCatch op handler) :=
  fun s => .tryCatch (hop s) fun fault t _ => hhandler fault t

theorem call (id : Nat) (c : BuilderCall) : Composed env (c.perform id) := fun _ => .call id c trivial

theorem direct (c : ConnectionCall) : Composed env c.perform := fun _ => .direct c trivial

theorem transaction (id : Nat) {script : Nat → Act α} (h : ∀ builder, Composed env (script builder)) :
    Composed env (Transaction.run id script) := fun _ => .transaction id script trivial fun builder t _ => h builder t

theorem recorded (hasInner : Bool) {operation : Act Report} (h : Composed env operation) :
    Composed env (Play.recorded hasInner operation) := fun s => .recorded hasInner operation (h s.aside)

theorem modular : Modular (Composed env) := ⟨pure, bind⟩

end Composed

end Act

end SqlBuilder
