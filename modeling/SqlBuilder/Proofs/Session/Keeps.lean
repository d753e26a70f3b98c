import SqlBuilder.Proofs.Session.Run
import Mathlib.Order.Defs.Unbundled

/-!
Operations that keep a relation between the states of a session: whatever comes of them, the state that they leave
is related to the one that they found. For a preorder this goes over to everything that is put together from such
operations.
-/

namespace SqlBuilder.Act

variable {α β : Type} {R : Session → Session → Prop} {env : Surroundings}

/-- A property of operations that goes over to what is put together from them. -/
structure Modular (P : ∀ {α : Type}, Act α → Prop) : Prop where
  pure : ∀ {α : Type} (x : α), P (Pure.pure x : Act α)
  bind : ∀ {α β : Type} {op : Act α} {k : α → Act β}, P op → (∀ x, P (k x)) → P (op >>= k)

namespace Modular

variable {P : ∀ {α : Type}, Act α → Prop}

/-- Both branches come to the same end, one of them at once. -/
theorem joined {c : Prop} [Decidable c] {op : Act β} {k : Unit → Act β} (hk : ∀ x, P (k x))
    (hop : (∀ x, P (k x)) → P op) : P (if c then op else k ()) := by
  split
  · exact hop hk
  · exact hk ()

/-- An operation in front of the others that is made only under a condition. -/
theorem whenever (hP : Modular P) {c : Prop} [Decidable c] {op : Act Unit} {k : Unit → Act β} (hop : P op)
    (hk : ∀ x, P (k x)) : P (if c then op >>= k else k ()) := joined hk fun h => hP.bind hop h

/-- An operation in front of the others that is left out under a condition. -/
theorem otherwise (hP : Modular P) {c : Prop} [Decidable c] {op : Act Unit} {k : Unit → Act β} (hop : P op)
    (hk : ∀ x, P (k x)) : P (if c then k () else op >>= k) := by
  split
  · exact hk ()
  · exact hP.bind hop hk

theorem mapM (hP : Modular P) {f : α → Act β} (hf : ∀ x, P (f x)) (xs : List α) : P (xs.mapM f) := by
  induction xs with
  | nil => exact hP.pure _
  | cons x xs ih =>
      rw [List.mapM_cons]
      exact hP.bind (hf x) fun _ => hP.bind ih fun _ => hP.pure _

theorem optionMapM (hP : Modular P) {f : α → Act β} (hf : ∀ x, P (f x)) (x : Option α) : P (x.mapM f) := by
  cases x with
  | none => exact hP.pure _
  | some x => exact hP.bind (hf x) fun _ => hP.pure _

theorem forM (hP : Modular P) {f : α → Act PUnit} (hf : ∀ x, P (f x)) (xs : List α) : P (xs.forM f) := by
  induction xs with
  | nil => exact hP.pure _
  | cons x xs ih => exact hP.bind (hf x) fun _ => ih

end Modular

/-- The state is related to the one before, also when the operation fails. -/
def Keeps (R : Session → Session → Prop) (env : Surroundings) (op : Act α) : Prop := ∀ s, R s (op.exec env s).2

namespace Keeps

theorem mono {R' : Session → Session → Prop} {op : Act α} (h : Keeps R env op) (hR : ∀ s s', R s s' → R' s s') :
    Keeps R' env op := fun s => hR _ _ (h s)

theorem of_exec {op : Act α} (hop : Keeps R env op) {s t : Session} {outcome : Except Fault α}
    (h : op.exec env s = (outcome, t)) : R s t := by
  have hs := hop s
  rw [h] at hs
  exact hs

/-- What follows is looked at only if the first operation succeeds. -/
theorem bind_at {op : Act α} {k : α → Act β} {s : Session} (hop : Keeps R env op)
    (hk : ∀ x t, op.exec env s = (.ok x, t) → R s ((k x).exec env t).2) : R s ((op >>= k).exec env s).2 := by
  rw [exec_bind]
  rcases hr : op.exec env s with ⟨outcome, t⟩
  cases outcome with
  | error fault => exact hop.of_exec hr
  | ok x => exact hk x t hr

/-- What follows the look at the surroundings is of interest for these alone. -/
theorem read_bind {k : Surroundings → Act β} (hk : Keeps R env (k env)) : Keeps R env (MonadReader.read >>= k) := by
  intro s
  rw [exec_bind, exec_read]
  exact hk s

/-- What follows a look at the state is of interest in that state alone. -/
theorem get_bind {k : Session → Act β} (hk : ∀ s, R s ((k s).exec env s).2) :
    Keeps R env (MonadState.get >>= k) := by
  intro s
  rw [exec_bind, exec_get]
  exact hk s

variable [IsPreorder Session R]

theorem pure (x : α) : Keeps R env (Pure.pure x) := fun s => refl_of R s

theorem throw (fault : Fault) : Keeps R env (MonadExcept.throw fault : Act α) := fun s => refl_of R s

theorem lift (outcome : Except Fault α) : Keeps R env (Act.lift outcome) := by
  intro s
  rw [exec_lift]
  exact refl_of R s

theorem bind {op : Act α} {k : α → Act β} (hop : Keeps R env op) (hk : ∀ x, Keeps R env (k x)) :
    Keeps R env (op >>= k) := by
  intro s
  apply bind_at hop
  intro x t h
  exact trans_of R (hop.of_exec h) (hk x t)

theorem check (outcome : Except Fault α) : Keeps R env (Act.check outcome) := bind (lift _) fun _ => pure _

theorem get : Keeps R env (MonadState.get : Act Session) := fun s => refl_of R s

theorem read : Keeps R env (MonadReader.read : Act Surroundings) := fun s => refl_of R s

theorem set_bind {k : PUnit → Act β} {s t u : Session} (ht : R s t) (hk : Keeps R env (k ⟨⟩)) :
    R s ((MonadStateOf.set t >>= k).exec env u).2 := by
  rw [exec_bind, exec_set]
  exact trans_of R ht (hk t)

theorem tryCatch {op : Act α} {handler : Fault → Act α} (hop : Keeps R env op)
    (hhandler : ∀ fault, Keeps R env (handler fault)) : Keeps R env (MonadExcept.tryCatch op handler) := by
  intro s
  rw [exec_tryCatch]
  rcases hr : op.exec env s with ⟨outcome, s'⟩
  cases outcome with
  | ok x => exact hop.of_exec hr
  | error fault => exact trans_of R (hop.of_exec hr) (hhandler fault s')

theorem builder (id : Nat) : Keeps R env (Act.builder id) := by
  intro s
  rw [exec_builder]
  exact refl_of R s

theorem draft (id : Nat) : Keeps R env (Act.draft id) :=
  bind (bind (builder id) fun _ => pure _) fun _ => bind get fun _ => pure _

theorem modular : Modular (Keeps R env) := ⟨pure, bind⟩

end Keeps

end SqlBuilder.Act
