import SqlBuilder.Proofs.Session.Callback
import SqlBuilder.Proofs.Session.Extending

/-!
Scripts of calls, and what they are made of. They do nothing but what any script may do. So whatever transactions keep
is kept by scripts, to any depth of hooks, groups and transactions; above all, scopes that have ended stay so.
-/

namespace SqlBuilder

open Act Session Play

variable {α : Type} {env : Surroundings} {R : Session → Session → Prop}

/-! ### Values -/

namespace Act.Idling

variable {P : ∀ {α : Type}, Act α → Prop} (h : Idling P)

include h

theorem lookup? (name : String) : P (Play.lookup? name) :=
  h.reading (fun s => (s.stored.find? fun entry => entry.1 = name).map (·.2)) (fun _ _ => rfl) fun _ _ => rfl

theorem lookup (name : String) : P (lookup name) := by
  refine h.bind (h.lookup? _) fun _ => ?_
  split
  · exact h.pure _
  · exact h.throw _

theorem assign (name : String) (v : Value) : P (assign name v) :=
  h.idle (fun _ => ⟨⟩)
    (fun s => { s with stored := (name, v) :: s.stored.filter fun entry => entry.1 ≠ name }) (fun _ _ => rfl)
    (fun _ => ⟨rfl, rfl, rfl, rfl, rfl, rfl⟩) (fun _ _ => rfl) fun _ _ => rfl

theorem keepScript (script : Script) : P (keepScript script) :=
  h.idle (fun s => s.scripts.size) (fun s => { s with scripts := s.scripts.push script }) (fun _ _ => rfl)
    (fun _ => ⟨rfl, rfl, rfl, rfl, rfl, rfl⟩) (fun _ _ => rfl) fun _ _ => rfl

/-- The records are replaced. -/
theorem record (records : List Record) : P (modify fun s => { s with records } : Act PUnit) :=
  h.idle (fun _ => ⟨⟩) (fun s => { s with records }) (fun _ _ => rfl) (fun _ => ⟨rfl, rfl, rfl, rfl, rfl, rfl⟩)
    (fun _ _ => rfl) fun _ _ => rfl

end Act.Idling

mutual

theorem Act.Idling.value {P : ∀ {α : Type}, Act α → Prop} (h : Idling P) : (term : Term) → P (value term)
  | .value v => by
    unfold Play.value
    split
    · exact h.marked _
    · exact h.pure _
  | .list items => by
    unfold Play.value
    exact h.bind (valuesOf h items) fun _ => h.pure _
  | .tuple items => by
    unfold Play.value
    exact h.bind (valuesOf h items) fun _ => h.pure _
  | .map entries => by
    unfold Play.value
    exact h.bind (entriesOf h [] entries) fun _ => h.pure _
  | .raw content bindings => by
    unfold Play.value
    exact h.bind (value h content) fun _ => h.bind (valuesOf h bindings) fun _ => h.pure _
  | .variable name => by
    unfold Play.value
    exact h.lookup _
  | .group steps => by
    unfold Play.value
    exact h.bind (h.keepScript _) fun _ => h.pure _
  | .hook name steps answer => by
    unfold Play.value
    exact h.bind (h.keepScript _) fun _ => h.pure _

theorem Act.Idling.valuesOf {P : ∀ {α : Type}, Act α → Prop} (h : Idling P) : (terms : List Term) → P (valuesOf terms)
  | [] => by
    unfold Play.valuesOf
    exact h.pure _
  | term :: rest => by
    unfold Play.valuesOf
    exact h.bind (value h term) fun _ => h.bind (valuesOf h rest) fun _ => h.pure _

theorem Act.Idling.entriesOf {P : ∀ {α : Type}, Act α → Prop} (h : Idling P) (known : List (Value × Value)) :
    (entries : List (Term × Term)) → P (entriesOf known entries)
  | [] => by
    unfold Play.entriesOf
    exact h.pure _
  | (key, term) :: rest => by
    unfold Play.entriesOf
    refine h.bind (value h key) fun _ => h.bind (value h term) fun _ => ?_
    split
    · exact entriesOf h _ rest
    · exact h.throw _

end

theorem Act.Idling.argumentsOf {P : ∀ {α : Type}, Act α → Prop} (h : Idling P) (inOrder : List Term)
    (byName : List (String × Term)) : P (argumentsOf inOrder byName) :=
  h.bind (h.valuesOf _) fun _ => h.bind (h.valuesOf _) fun _ => h.pure _

/-! ### Steps -/

/-- The property holds of what scripts are made of. -/
structure Act.Scripting (P : ∀ {α : Type}, Act α → Prop) : Prop extends Working P where
  get : P (MonadState.get : Act Session)
  tryCatch : ∀ {α : Type} {op : Act α} {handler : Fault → Act α}, P op → (∀ fault, P (handler fault)) →
    P (MonadExcept.tryCatch op handler)
  call : ∀ (id : Nat) (c : BuilderCall), P (c.perform id)
  direct : ∀ c : ConnectionCall, P c.perform
  transaction : ∀ {α : Type} (id : Nat) {script : Nat → Act α}, (∀ builder, P (script builder)) →
    P (Transaction.run id script)
  recorded : ∀ (hasInner : Bool) {operation : Act Report}, P operation → P (Play.recorded hasInner operation)

namespace Act.Scripting

section Steps

variable {P : ∀ {α : Type}, Act α → Prop} (h : Scripting P)

include h

theorem observe {operation : Act α} (hoperation : P operation) : P (observe operation) :=
  h.tryCatch (h.bind hoperation fun _ => h.pure _) fun _ => h.pure _

theorem withTarget (target : Value) {operation : Act α} (hoperation : P operation) :
    P (withTarget target operation) := by
  refine h.bind (h.lookup? _) fun _ => h.bind (h.assign _ _) fun _ => h.bind (h.observe hoperation) fun _ => ?_
  dsimp only
  split
  · exact h.bind (h.assign _ _) fun _ => h.lift _
  · exact h.lift _

theorem standing (id : Nat) : P (standing id) := by
  refine h.bind (h.builder _) fun _ => ?_
  split
  · exact h.compile _ _
  · exact h.compile _ _
  · exact h.compile _ _

theorem report (target : Value) (answer : Answer) : P (report target answer) := by
  unfold Play.report
  split
  · exact h.pure _
  · exact h.bind (h.observe (h.standing _)) fun _ => h.pure _
  · exact h.pure _

theorem compiled (id : Nat) (kind : Value) (extra : List Value) : P (compiled id kind extra) := by
  refine h.bind (h.lift _) fun _ => h.bind (h.compile _ _) fun _ => h.bind (h.issued _) fun _ => ?_
  split
  · exact h.pure _
  · exact h.throw _

theorem called (target : Value) (method : String) (a : Arguments) : P (Play.call target method a) := by
  unfold Play.call
  split
  · exact h.bind (h.lift _) fun _ => h.bind (h.direct _) fun _ => h.pure _
  · refine h.bind (h.builder _) fun _ => h.bind (h.lift _) fun _ => ?_
    split
    · exact h.bind (h.call _ _) fun _ => h.pure _
    · exact h.bind (h.direct _) fun _ => h.pure _
    · exact h.compiled _ _ _
  · exact h.throw _

end Steps

mutual

theorem stepOn {P : ∀ {α : Type}, Act α → Prop} (h : Scripting P) (target : Value) : (s : Step) → P (stepOn target s)
  | .mk method inOrder byName options inner answer => by
    unfold Play.stepOn
    refine h.bind (h.argumentsOf _ _) fun a => ?_
    have hend : ∀ given : Answer, P (do
        if let some name := options.result then Play.assign name given.value
        pure given) := by
      intro given
      dsimp only
      split
      · exact h.bind (h.assign _ _) fun _ => h.pure _
      · exact h.pure _
    dsimp only
    split
    · split
      · exact h.bind (h.pure _) hend
      · exact h.bind (h.throw _) hend
    · exact h.bind (h.throw _) hend
    · split
      · refine h.bind (h.transaction _ fun builder => ?_) fun (status, v) => h.bind (h.pure _) hend
        refine h.bind (h.builderValue _) fun _ => h.withTarget _ ?_
        exact h.bind (record h _ inner) fun _ => h.value _
      · exact h.bind (h.throw _) hend
    · exact h.bind (h.called _ _ _) hend

theorem record {P : ∀ {α : Type}, Act α → Prop} (h : Scripting P) (isOutermost : Bool) :
    (script : List Step) → P (record isOutermost script)
  | [] => by
    unfold Play.record
    exact h.pure _
  | .mk method inOrder byName options inner answer :: rest => by
    unfold Play.record
    refine h.bind (h.recorded _ ?_) fun fault => ?_
    · exact h.bind (h.lookup _) fun _ => h.bind (stepOn h _ _) fun _ => h.report _ _
    · have hrest : ∀ _ : Unit, P (Play.record isOutermost rest) := fun _ => record h _ rest
      dsimp only
      split
      · exact h.otherwise (h.throw _) hrest
      · exact hrest ()

end

section Steps

variable {P : ∀ {α : Type}, Act α → Prop} (h : Scripting P)

include h

theorem step (s : Step) : P (step s) := by
  obtain ⟨method, inOrder, byName, options, inner, answer⟩ := s
  unfold Play.step
  exact h.bind (h.lookup _) fun _ => h.stepOn _ _

theorem steps (script : List Step) : P (steps script) :=
  h.forM (fun _ => h.bind (h.step _) fun _ => h.pure _) _

theorem run (script : Nat) (target : Value) : P (Play.fill script target) := by
  refine h.bind h.get fun before => h.bind (h.observe (h.withTarget _ (h.steps _))) fun _ => ?_
  exact h.bind (h.toIdling.record before.records) fun _ => h.lift _

end Steps

end Act.Scripting

/-- Scripts do nothing but what any script may do. -/
theorem Act.Composed.scripting : Scripting (Composed env) where
  toWorking := (Blind.working (g := .plain env)).imp modular
    (fun hk => .bind (.quiet .read) hk) .blind
  get := .get
  tryCatch := .tryCatch
  call := .call
  direct := .direct
  transaction := .transaction
  recorded hasInner _ h := .recorded hasInner h

/-! ### The scripts of groups and hooks -/

section Scripts

variable [IsPreorder Session R]

omit [IsPreorder Session R] in
theorem Play.keeps_recorded [env.Transacts R] (hasInner : Bool) {operation : Act Report} (h : Keeps R env operation) :
    Keeps R env (recorded hasInner operation) := by
  intro s
  obtain ⟨report, inner, hend⟩ := exec_recorded env hasInner operation s
  rw [hend]
  exact Surroundings.Transacts.resumed env s _ report inner (h s.aside)

/-- What transactions keep is kept by scripts. -/
theorem Act.Keeps.scripting [env.Declares R] [env.Transacts R] : Scripting (Keeps R env) where
  toWorking := Keeps.working
  get := .get
  tryCatch := .tryCatch
  call := BuilderCall.keeps_perform
  direct := ConnectionCall.keeps_perform
  transaction := Transaction.keeps_run
  recorded := Play.keeps_recorded

namespace Play

/-- What a hook has done is told in the journal. -/
theorem keeps_notify [env.Declares R] [env.Transacts R] (name : String) (script : Nat) (call : HookCall) :
    Keeps R env (notify name script call) := by
  have hrecords : ∀ (s : Session) (records : List Record), R s { s with records } :=
    fun s records => Keeps.working.toIdling.record (P := Keeps R env) records s
  refine Keeps.get_bind fun s => ?_
  split
  · refine Keeps.set_bind (hrecords s []) ?_
    refine .bind (Keeps.scripting.observe ?_) fun _ => .bind (fun t => ?_) fun _ => .lift _
    · refine .bind (Keeps.working.builderValue _) fun _ => Keeps.scripting.withTarget _ ?_
      exact .bind (Keeps.scripting.record _ _) fun _ => Keeps.working.toIdling.value _
    · let entry := Entry.hook name call.event call.statement call.arguments t.records
      exact trans_of R (Surroundings.Transacts.noted env t entry trivial) (hrecords (t.noted entry) s.records)
  · exact refl_of R _

/-- The scripts keep it up to any depth of calls inside calls. -/
theorem keeps_surroundings (hdeclares : ∀ env : Surroundings, env.Keeps R → env.Declares R)
    (htransacts : ∀ env : Surroundings, env.Keeps R → env.Transacts R) (depth : Nat) :
    (surroundings depth).Keeps R := by
  induction depth with
  | zero => exact ⟨fun _ _ s => refl_of R s, fun _ _ _ s => refl_of R s⟩
  | succ depth ih =>
      have hdeclares := hdeclares _ ih
      have htransacts := htransacts _ ih
      exact ⟨fun script target => Keeps.scripting.run script target, keeps_notify⟩

instance (depth : Nat) : (surroundings depth).Keeps Extends :=
  keeps_surroundings (fun _ _ => inferInstance) (fun _ _ => inferInstance) depth

theorem extends_record [env.Keeps Extends] (isOutermost : Bool) (script : List Step) :
    Keeps Extends env (record isOutermost script) := Keeps.scripting.record isOutermost script

end Play

end Scripts

end SqlBuilder
