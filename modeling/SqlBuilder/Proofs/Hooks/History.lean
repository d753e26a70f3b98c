import Mathlib.Data.List.Induction
import SqlBuilder.Proofs.Hooks.Standing
import SqlBuilder.Session.Start

/-!
The hooks of a connection after any history of registrations and removals. In each slot, what stands at an event is told
by the last call that concerns both: its hook if it registers one, nothing if it removes. A call for an unknown event
fails and concerns no event.
-/

namespace SqlBuilder

open Act

/-- The table that a client names, or the absence of one. -/
def tableNamed (table : Option String) : Value := table.elim .null .text

/-- The slot that a client means. An absent name, an empty one and the name of the slot for any table mean the same. -/
def slotName (table : Option String) : String := if table.getD "" = "" then ":any" else table.getD ""

theorem slot_tableNamed (table : Option String) : HookTable.slot (tableNamed table) = .text (slotName table) := by
  cases table with
  | none => rfl
  | some name =>
      unfold slotName
      by_cases hname : name = ""
      · rw [hname]
        rfl
      · rw [Option.getD_some, if_neg hname]
        have htruthy : (tableNamed (some name)).isTruthy = true := by
          change (name != "") = true
          simpa using hname
        unfold HookTable.slot
        rw [if_pos htruthy]
        rfl

theorem isRaw_tableNamed (table : Option String) : (tableNamed table).isRaw = false := by
  cases table <;> rfl

/-- A call that changes the hooks of a connection. -/
inductive HookChange where
  | register (event : String) (hook : Value) (table : Option String)
  | remove (event : String) (table : Option String)

namespace HookChange

def call : HookChange → ConnectionCall
  | register event hook table => .registerHook (.text event) hook (tableNamed table)
  | remove event table => .removeHook (.text event) (tableNamed table)

def event : HookChange → String
  | register event _ _ => event
  | remove event _ => event

def slot : HookChange → String
  | register _ _ table => slotName table
  | remove _ table => slotName table

/-- The hook that the call leaves where it concerns something. -/
def hook? : HookChange → Option Value
  | register _ hook _ => some hook
  | remove _ _ => none

/-- The call is about this event in this slot. -/
def concerns (kind : EventKind) (slot : String) (c : HookChange) : Bool := c.event == kind.name && c.slot == slot

/-- The session after the call, whether it succeeds or fails. -/
def after (env : Surroundings) (s : Session) (c : HookChange) : Session := (c.call.perform.exec env s).2

/-- What a history leaves at an event in a slot: the hook of the last call that concerns both. -/
def standing (history : List HookChange) (kind : EventKind) (slot : String) : Option Value :=
  (history.filter (concerns kind slot)).getLast?.bind hook?

variable {env : Surroundings} {s : Session}

theorem exec_ofValue (name : String) : (Act.lift (EventKind.ofValue (.text name))).exec env s =
    (match EventKind.ofName? name with
      | some kind => .ok kind
      | none => .error (.value (.unknownEvent (Value.text name).shown)), s) := by
  rw [exec_lift]
  unfold EventKind.ofValue
  dsimp only
  cases EventKind.ofName? name with
  | none => rfl
  | some kind => rfl

theorem exec_slot (table : Option String) : (Act.lift (HookTable.slot? (tableNamed table))).exec env s =
    (.ok (.text (slotName table)), s) := by
  rw [exec_lift]
  unfold HookTable.slot?
  rw [slot_tableNamed]
  rfl

/-- A call for an event that exists changes the hooks and nothing else; any other fails. -/
theorem exec_call (c : HookChange) : c.call.perform.exec env s =
    match EventKind.ofName? c.event with
    | none => (.error (.value (.unknownEvent (Value.text c.event).shown)), s)
    | some kind => (.ok .null, { s with hooks := match c with
        | register _ hook table => s.hooks.register kind hook (tableNamed table)
        | remove _ table => s.hooks.remove kind (tableNamed table) }) := by
  cases c with
  | register name hook table =>
      change exec (do let _ ← Hooks.register (.text name) hook (tableNamed table); pure Value.null) env s = _
      have hevent := @exec_ofValue env s name
      dsimp only [event]
      unfold Hooks.register
      cases hname : EventKind.ofName? name with
      | none =>
          rw [hname] at hevent
          rw [exec_bind_error (exec_bind_error hevent)]
      | some kind =>
          rw [hname] at hevent
          rw [bind_assoc, exec_bind_ok hevent, bind_assoc, exec_bind_ok (exec_slot table)]
          rfl
  | remove name table =>
      change exec (do let _ ← Hooks.remove (.text name) (tableNamed table); pure Value.null) env s = _
      have hevent := @exec_ofValue env s name
      dsimp only [event]
      unfold Hooks.remove
      rw [bind_assoc, exec_bind_ok (exec_slot table)]
      cases hname : EventKind.ofName? name with
      | none =>
          rw [hname] at hevent
          rw [exec_bind_error (exec_bind_error hevent)]
      | some kind =>
          rw [hname] at hevent
          rw [bind_assoc, exec_bind_ok hevent]
          rfl

/-- One call decides what stands where it concerns something, and leaves the rest. -/
theorem standing?_after (c : HookChange) (kind : EventKind) (table : Option String) :
    (c.after env s).hooks.standing? kind (tableNamed table) =
      if c.concerns kind (slotName table) then c.hook? else s.hooks.standing? kind (tableNamed table) := by
  unfold after
  rw [exec_call]
  cases hname : EventKind.ofName? c.event with
  | none =>
      have hother : c.event ≠ kind.name := fun h => by
        rw [EventKind.ofName?_eq_some_iff.2 h] at hname
        cases hname
      simp [concerns, hother]
  | some named =>
      have hevent : (c.event == kind.name) = decide (named = kind) := by
        rw [EventKind.ofName?_eq_some_iff.1 hname]
        cases named <;> cases kind <;> rfl
      unfold concerns
      rw [hevent]
      cases c with
      | register name hook other =>
          dsimp only [slot, hook?]
          rw [HookTable.standing?_register _ _ _ _ (slot_tableNamed other) (slot_tableNamed table)]
          simp
      | remove name other =>
          dsimp only [slot, hook?]
          rw [HookTable.standing?_remove _ _ _ (slot_tableNamed other) (slot_tableNamed table)]
          simp

/-- After a whole history each event has in each slot what the last call that concerns both has left. -/
theorem standing?_foldl_after (hs : s.hooks = []) (history : List HookChange) (kind : EventKind)
    (table : Option String) : (history.foldl (after env) s).hooks.standing? kind (tableNamed table) =
      standing history kind (slotName table) := by
  induction history using List.reverseRecOn with
  | nil =>
      rw [List.foldl_nil, hs]
      rfl
  | append_singleton history c ih =>
      rw [List.foldl_append, List.foldl_cons, List.foldl_nil, standing?_after, ih]
      unfold standing
      rw [List.filter_append]
      by_cases hc : c.concerns kind (slotName table) = true
      · rw [if_pos hc, List.filter_cons_of_pos hc, List.filter_nil, List.getLast?_concat]
        rfl
      · rw [if_neg hc, List.filter_cons_of_neg hc, List.filter_nil, List.append_nil]

end HookChange

/-- The hook that a connection finds for an event on a table. -/
def Session.hookFor (env : Surroundings) (s : Session) (event : EventKind) (table : Option String) :
    Except Fault Value :=
  ((ConnectionCall.findHook (.text event.name) (tableNamed table)).perform.exec env s).1

theorem Session.hookFor_eq (env : Surroundings) (s : Session) (event : EventKind) (table : Option String) :
    s.hookFor env event table = .ok (((s.hooks.standing? event (tableNamed table)).or
      (s.hooks.standing? event.wildcard (tableNamed table))).getD .null) := by
  change (exec (Hooks.find (.text event.name) (tableNamed table)) env s).1 = _
  have hevent := @HookChange.exec_ofValue env s event.name
  rw [EventKind.ofName?_eq_some_iff.2 rfl] at hevent
  unfold Hooks.find Execute.hookFor
  rw [if_neg (ne_true_of_eq_false (isRaw_tableNamed table)), exec_bind_ok hevent,
    if_neg (ne_true_of_eq_false (isRaw_tableNamed table)), bind_assoc, exec_bind_ok (HookChange.exec_slot table)]
  rw [← HookTable.find?_eq s.hooks event (isRaw_tableNamed table)]
  change Except.ok _ = _
  congr 1
  rcases s.hooks.find? event (tableNamed table) with _ | hook
  · rfl
  · cases hook <;> rfl

namespace HookChange

variable {env : Surroundings} {s : Session}

/-- What stands after a history has been registered in it, for the same event and in the same slot. -/
theorem exists_register_of_standing {history : List HookChange} {kind : EventKind} {slot : String} {hook : Value}
    (h : standing history kind slot = some hook) :
    ∃ table, register kind.name hook table ∈ history ∧ slotName table = slot := by
  obtain ⟨c, hlast, hhook⟩ := Option.bind_eq_some_iff.1 h
  obtain ⟨hmem, hc⟩ := List.mem_filter.1 (List.mem_of_getLast? hlast)
  cases c with
  | remove name table => cases hhook
  | register name hook' table =>
      cases hhook
      simp only [concerns, event, HookChange.slot, Bool.and_eq_true, beq_iff_eq] at hc
      obtain ⟨rfl, hslot⟩ := hc
      exact ⟨table, hmem, hslot⟩

end HookChange

open HookChange

/-- After any history an event finds on a table the hook that was registered last for exactly this event in the slot of
the table and has not been removed since, and in its absence the one for the wildcard of its phase in the same slot. So
a hook that is found was registered in that slot, and a history with the same calls for these two events in that slot,
each in the same order, leads to the same hook. -/
theorem Session.hookFor_history (env : Surroundings) (s : Session) (hs : s.hooks = []) (history : List HookChange)
    (event : EventKind) (table : Option String) :
    (history.foldl (after env) s).hookFor env event table =
      .ok (((standing history event (slotName table)).or
        (standing history event.wildcard (slotName table))).getD .null) ∧
    (∀ hook, hook.isNull = false → (history.foldl (after env) s).hookFor env event table = .ok hook →
      ∃ kind other, register kind.name hook other ∈ history ∧ (kind = event ∨ kind = event.wildcard) ∧
        slotName other = slotName table) ∧
    ∀ other : List HookChange,
      (∀ kind, kind = event ∨ kind = event.wildcard →
        other.filter (concerns kind (slotName table)) = history.filter (concerns kind (slotName table))) →
      (other.foldl (after env) s).hookFor env event table = (history.foldl (after env) s).hookFor env event table := by
  have hfound : ∀ calls : List HookChange, (calls.foldl (after env) s).hookFor env event table =
      .ok (((standing calls event (slotName table)).or
        (standing calls event.wildcard (slotName table))).getD .null) := by
    intro calls
    rw [hookFor_eq, standing?_foldl_after hs, standing?_foldl_after hs]
  refine ⟨hfound history, ?_, ?_⟩
  · intro hook hnull hfind
    rw [hfound history, Except.ok.injEq] at hfind
    rcases hstanding : (standing history event (slotName table)).or (standing history event.wildcard (slotName table))
      with _ | found
    · rw [hstanding] at hfind
      subst hfind
      cases hnull
    · rw [hstanding, Option.getD_some] at hfind
      subst hfind
      rcases Option.or_eq_some_iff.1 hstanding with hexact | ⟨-, hwildcard⟩
      · obtain ⟨other, hmem, hslot⟩ := exists_register_of_standing hexact
        exact ⟨event, other, hmem, .inl rfl, hslot⟩
      · obtain ⟨other, hmem, hslot⟩ := exists_register_of_standing hwildcard
        exact ⟨event.wildcard, other, hmem, .inr rfl, hslot⟩
  · intro other hsame
    rw [hfound other, hfound history]
    unfold standing
    rw [hsame event (.inl rfl), hsame event.wildcard (.inr rfl)]

/-- The hook for selections is removed again, so the wildcard of their phase is found, whichever was registered first;
the hooks for any table are in a slot of their own. -/
theorem Session.hookFor_history_wildcard :
    let s := ofDriver (.scripted ⟨.mysql, [], none, none, none, 0, .null, false⟩) none
    let env := Play.surroundings 1
    let all : HookChange := .register "before-*" (.hook "all" 0) (some "people")
    let exact : List HookChange :=
      [.register "before-select" (.hook "exact" 0) (some "people"), .remove "before-select" (some "people")]
    let any : List HookChange := [.register "before-select" (.hook "any" 0) none, .remove "before-select" (some "")]
    s.hooks = [] ∧
      ((all :: (any ++ exact)).foldl (after env) s).hookFor env .beforeSelect (some "people") = .ok (.hook "all" 0) ∧
      ((exact ++ all :: any).foldl (after env) s).hookFor env .beforeSelect (some "people") = .ok (.hook "all" 0) := by
  intro s env all exact any
  obtain ⟨hfound, -, hreorder⟩ := hookFor_history env s rfl (all :: (any ++ exact)) .beforeSelect (some "people")
  have hcalls : ∀ kind, kind = EventKind.beforeSelect ∨ kind = EventKind.beforeSelect.wildcard →
      (exact ++ all :: any).filter (concerns kind (slotName (some "people"))) =
        (all :: (any ++ exact)).filter (concerns kind (slotName (some "people"))) := by
    rintro kind (rfl | rfl) <;> rfl
  exact ⟨rfl, hfound, (hreorder _ hcalls).trans hfound⟩

end SqlBuilder
