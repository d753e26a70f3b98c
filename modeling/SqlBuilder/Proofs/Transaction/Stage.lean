import SqlBuilder.Proofs.Driver.Call

/-!
What transactions are about: the driver with its one transaction, and the scopes, of which each ends on its own. The
moves on this stage are the calls of the driver and what becomes of the scopes with them.
-/

namespace SqlBuilder

/-- The driver, and how the scopes of transactions have ended, if they have. -/
structure Stage where
  driver : Driver
  scopes : Array (Option TransactionStatus)

/-- What happens on the stage. -/
inductive Move where
  /-- A call of the driver that is not the end of an open scope. -/
  | call (c : DriverCall)
  /-- A scope comes up. -/
  | opened
  /-- The driver ends the transaction for the scope, which is closed. -/
  | ended (scope : Nat) (status : TransactionStatus)
  /-- The driver is to end the transaction for the scope but fails, and the scope stays open. -/
  | refused (scope : Nat) (status : TransactionStatus)
  /-- The scope is closed as committed without a call of the driver, which has no transaction open. -/
  | assumed (scope : Nat)

namespace Move

def call? : Move → Option DriverCall
  | call c => some c
  | ended _ status => some status.call
  | refused _ status => some status.call
  | opened => none
  | assumed _ => none

def Commits (σ : Stage) (m : Move) : Prop := m.call? = some .commit ∧ DriverCall.commit.Succeeds σ.driver

/-- What becomes of the scopes. -/
def scopesAfter (scopes : Array (Option TransactionStatus)) : Move → Array (Option TransactionStatus)
  | opened => scopes.push none
  | ended scope status => scopes.modify scope fun _ => some status
  | assumed scope => scopes.modify scope fun _ => some .committed
  | _ => scopes

def entries (d : Driver) (m : Move) : List WireEntry :=
  match m.call? with
  | some c => (c.on d).2.2
  | none => []

def Closes (m : Move) (scope : Nat) (status : TransactionStatus) : Prop :=
  m = ended scope status ∨ m = assumed scope ∧ status = .committed

/-- The move can be made on the stage. -/
def Fits (σ : Stage) : Move → Prop
  | call _ => True
  | opened => True
  | ended scope status => σ.scopes[scope]?.getD none = none ∧ status.call.Succeeds σ.driver
  | refused scope status => σ.scopes[scope]?.getD none = none ∧ ¬ status.call.Succeeds σ.driver
  | assumed scope => σ.scopes[scope]?.getD none = none ∧ σ.driver.inTransaction = false

end Move

namespace Stage

variable {σ : Stage} {m : Move} {ms ms' : List Move} {scope : Nat} {status : TransactionStatus}

def after (σ : Stage) (m : Move) : Stage where
  driver := match m.call? with
    | some c => c.after σ.driver
    | none => σ.driver
  scopes := m.scopesAfter σ.scopes

def run (σ : Stage) (ms : List Move) : Stage := ms.foldl after σ

/-- Each of the moves can be made where it is made. -/
def Allows (σ : Stage) : List Move → Prop
  | [] => True
  | m :: ms => m.Fits σ ∧ (σ.after m).Allows ms

@[simp] theorem run_nil : σ.run [] = σ := rfl

@[simp] theorem run_cons : σ.run (m :: ms) = (σ.after m).run ms := rfl

theorem run_append : σ.run (ms ++ ms') = (σ.run ms).run ms' := List.foldl_append

theorem allows_append : σ.Allows (ms ++ ms') ↔ σ.Allows ms ∧ (σ.run ms).Allows ms' := by
  induction ms generalizing σ with
  | nil => simp [Allows]
  | cons m ms ih => simp only [List.cons_append, Allows, run_cons, ih, and_assoc]

theorem allows_singleton : σ.Allows [m] ↔ m.Fits σ := by simp [Allows]

/-! ### Scopes -/

def Open (σ : Stage) (scope : Nat) : Prop := σ.scopes[scope]? = some none

def Closed (σ : Stage) (scope : Nat) (status : TransactionStatus) : Prop := σ.scopes[scope]? = some (some status)

theorem Closed.not_open (h : σ.Closed scope status) : ¬ σ.Open scope := by
  intro hopen
  have heq := h.symm.trans hopen
  cases heq

theorem Closed.unique {status' : TransactionStatus} (h : σ.Closed scope status) (h' : σ.Closed scope status') :
    status = status' := Option.some.inj (Option.some.inj (h.symm.trans h'))

theorem Closed.not_unended (h : σ.Closed scope status) : σ.scopes[scope]?.getD none ≠ none := by
  rw [h]
  exact Option.some_ne_none status

theorem getElem?_push {scopes : Array (Option TransactionStatus)} {x : Option TransactionStatus}
    (h : scopes[scope]? = some x) : (scopes.push none)[scope]? = some x := by
  obtain ⟨hlt, heq⟩ := Array.getElem?_eq_some_iff.mp h
  rw [Array.getElem?_push_lt hlt, heq]

/-- The scope is closed by a move that is for it; the others stay as they are. -/
theorem closed_modify (scope : Nat) (status : TransactionStatus) {other : Nat} {x : Option TransactionStatus}
    (hother : σ.scopes[other]? = some x) :
    (other = scope ∧ (σ.scopes.modify scope fun _ => some status)[other]? = some (some status)) ∨
    (other ≠ scope ∧ (σ.scopes.modify scope fun _ => some status)[other]? = some x) := by
  rw [Array.getElem?_modify]
  by_cases heq : scope = other
  · rw [if_pos heq, hother]
    exact .inl ⟨heq.symm, rfl⟩
  · rw [if_neg heq]
    exact .inr ⟨fun h => heq h.symm, hother⟩

theorem Closed.after (h : σ.Closed scope status) (hm : m.Fits σ) : (σ.after m).Closed scope status := by
  have hmodify : ∀ {other : Nat} {status' : TransactionStatus}, σ.scopes[other]?.getD none = none →
      (σ.scopes.modify other fun _ => some status')[scope]? = some (some status) := by
    intro other status' hopen
    obtain ⟨rfl, -⟩ | ⟨-, hkept⟩ := closed_modify other status' h
    · exact absurd hopen h.not_unended
    · exact hkept
  cases m with
  | call c => exact h
  | opened => exact getElem?_push h
  | ended other status' => exact hmodify hm.1
  | refused other status' => exact h
  | assumed other => exact hmodify hm.1

theorem Closed.run (h : σ.Closed scope status) (hms : σ.Allows ms) : (σ.run ms).Closed scope status := by
  induction ms generalizing σ with
  | nil => exact h
  | cons m ms ih => exact ih (h.after hms.1) hms.2

/-- An open scope stays open unless the move closes it. -/
theorem Open.after (h : σ.Open scope) (hm : m.Fits σ) :
    (σ.after m).Open scope ∨ ∃ status, m.Closes scope status ∧ (σ.after m).Closed scope status := by
  cases m with
  | call c => exact .inl h
  | opened => exact .inl (getElem?_push h)
  | ended other status' =>
      obtain ⟨rfl, hclosed⟩ | ⟨-, hkept⟩ := closed_modify other status' h
      · exact .inr ⟨status', .inl rfl, hclosed⟩
      · exact .inl hkept
  | refused other status' => exact .inl h
  | assumed other =>
      obtain ⟨rfl, hclosed⟩ | ⟨-, hkept⟩ := closed_modify other .committed h
      · exact .inr ⟨.committed, .inr ⟨rfl, rfl⟩, hclosed⟩
      · exact .inl hkept

/-- A scope that is open at first is open at last, or one of the moves in between has closed it. -/
theorem Open.run (h : σ.Open scope) (hms : σ.Allows ms) :
    (σ.run ms).Open scope ∨ ∃ before m behind status, ms = before ++ m :: behind ∧ (σ.run before).Open scope ∧
      m.Closes scope status ∧ (σ.run ms).Closed scope status := by
  induction ms generalizing σ with
  | nil => exact .inl h
  | cons m ms ih =>
      obtain hopen | ⟨status, hcloses, hclosed⟩ := h.after hms.1
      · obtain hopen | ⟨before, m', behind, status, rfl, hbefore, hcloses, hclosed⟩ := ih hopen hms.2
        · exact .inl hopen
        · exact .inr ⟨m :: before, m', behind, status, rfl, hbefore, hcloses, hclosed⟩
      · exact .inr ⟨[], m, ms, status, rfl, h, hcloses, hclosed.run hms.2⟩

/-- The move with which a scope ends settles how it has ended. -/
theorem closed_of_mem (h : σ.Open scope) (hms : σ.Allows ms) (hm : .ended scope status ∈ ms) :
    (σ.run ms).Closed scope status := by
  obtain ⟨before, behind, rfl⟩ := List.append_of_mem hm
  obtain ⟨hbefore, hfits, hbehind⟩ := allows_append.mp hms
  rw [run_append, run_cons]
  refine Closed.run ?_ hbehind
  obtain hopen | ⟨_, _, _, status', _, _, _, hclosed⟩ := h.run hbefore
  · obtain ⟨-, hclosed⟩ | ⟨hne, -⟩ := closed_modify scope status hopen
    · exact hclosed
    · exact absurd rfl hne
  · -- an end of the scope before this one would not let it be made
    exact absurd hfits.1 hclosed.not_unended

/-! ### The end of a transaction -/

theorem sound_after (hσ : σ.driver.Sound) : (σ.after m).driver.Sound := by
  unfold after
  dsimp only
  split
  · exact DriverCall.sound_after _ hσ
  · exact hσ

theorem sound_run (hσ : σ.driver.Sound) : (σ.run ms).driver.Sound := by
  induction ms generalizing σ with
  | nil => exact hσ
  | cons m ms ih => exact ih (sound_after hσ)

/-- Once the scope has closed, the driver has no transaction open, be it for the first time or not. -/
theorem flag_of_closes (hσ : σ.driver.Sound) (hm : m.Fits σ) (hcloses : m.Closes scope status) :
    (σ.after m).driver.inTransaction = false := by
  obtain rfl | ⟨rfl, -⟩ := hcloses
  · exact DriverCall.after_end hσ status hm.2
  · exact hm.2

/-- The move that ends the transaction that is open at first: the first one behind which the driver has none open. -/
def ending? (σ : Stage) : List Move → Option Move
  | [] => none
  | m :: ms => if (σ.after m).driver.inTransaction then (σ.after m).ending? ms else some m

theorem ending?_append : σ.ending? (ms ++ ms') = (σ.ending? ms).or ((σ.run ms).ending? ms') := by
  induction ms generalizing σ with
  | nil => rfl
  | cons m ms ih =>
      simp only [List.cons_append, ending?, run_cons]
      split
      · exact ih
      · rfl

theorem flag_of_ending?_eq_none (h : σ.ending? ms = none) (hσ : σ.driver.inTransaction = true) :
    (σ.run ms).driver.inTransaction = true := by
  induction ms generalizing σ with
  | nil => exact hσ
  | cons m ms ih =>
      unfold ending? at h
      split at h
      · rename_i hflag
        exact ih h hflag
      · cases h

theorem ending?_isSome (hσ : σ.driver.inTransaction = true) (h : (σ.run ms).driver.inTransaction = false) :
    ∃ m, σ.ending? ms = some m := by
  cases hending : σ.ending? ms with
  | some m => exact ⟨m, rfl⟩
  | none =>
      rw [flag_of_ending?_eq_none hending hσ] at h
      cases h

/-- Where the move that ends the transaction stands. -/
theorem ending?_eq_some (h : σ.ending? ms = some m) : ∃ before behind, ms = before ++ m :: behind ∧
    σ.ending? before = none ∧ (σ.run (before ++ [m])).driver.inTransaction = false := by
  induction ms generalizing σ with
  | nil => cases h
  | cons m' ms ih =>
      unfold ending? at h
      split at h
      · rename_i hflag
        obtain ⟨before, behind, rfl, hbefore, hend⟩ := ih h
        refine ⟨m' :: before, behind, rfl, ?_, hend⟩
        rw [ending?, if_pos hflag]
        exact hbefore
      · rename_i hflag
        obtain rfl := Option.some.inj h
        exact ⟨[], ms, rfl, rfl, Bool.eq_false_iff.mpr hflag⟩

theorem ending?_eq_some_of_first {before behind : List Move} (hbefore : σ.ending? before = none)
    (hlast : (σ.run (before ++ [m])).driver.inTransaction = false) :
    σ.ending? (before ++ m :: behind) = some m := by
  have hafter : ((σ.run before).after m).driver.inTransaction = false := by
    rw [run_append] at hlast
    exact hlast
  rw [ending?_append, hbefore, Option.none_or, ending?, if_neg (Bool.eq_false_iff.mp hafter)]

/-- A scope that has closed has seen the transaction end. -/
theorem ending?_of_closed (hσ : σ.driver.Sound) (hflag : σ.driver.inTransaction = true) (hopen : σ.Open scope)
    (hms : σ.Allows ms) (hclosed : ¬ (σ.run ms).Open scope) : ∃ m, σ.ending? ms = some m := by
  obtain hstill | ⟨before, m, behind, status, rfl, -, hcloses, -⟩ := hopen.run hms
  · exact absurd hstill hclosed
  · have hm := (allows_append.mp hms).2.1
    have hend := flag_of_closes (sound_run hσ) hm hcloses
    rw [show before ++ m :: behind = (before ++ [m]) ++ behind by simp, ending?_append]
    have hprefix : (σ.run (before ++ [m])).driver.inTransaction = false := by
      rw [run_append]
      exact hend
    obtain ⟨m', hm'⟩ := ending?_isSome hflag hprefix
    exact ⟨m', by rw [hm']; rfl⟩

end Stage

end SqlBuilder
