import SqlBuilder.Proofs.Hooks.History
import SqlBuilder.Proofs.Session.Lifecycle
import SqlBuilder.Proofs.Session.Tables

/-!
One hook alone on a connection. Builders put the prefix in front of the table that a hook is registered for, as they do
with the tables that they declare, so the hook runs at its event once for each declaration of its table, and for nothing
else.
-/

namespace SqlBuilder

open Act Session Footprint

variable {env : Surroundings} {s t : Session} {id : Nat}

/-! ### Hooks by way of builders -/

/-- The name of a table with the prefix. The slot for any table has none. -/
def ledName (lead : Option String) (name : String) : String :=
  if name = ":any" then name else lead.getD "" ++ name

namespace HookChange

/-- The call of a builder that changes the hooks of its connection. -/
def through : HookChange → BuilderCall
  | register event hook table => .registerHook (.text event) hook (tableNamed table)
  | remove event table => .removeHook (.text event) (tableNamed table)

def led (lead : Option String) : HookChange → HookChange
  | register event hook table => register event hook (table.map (ledName lead))
  | remove event table => remove event (table.map (ledName lead))

theorem exec_tableOf {b : Builder} (hb : s.builders[id]? = some b) (table : Option String) :
    (Hooks.tableOf id (tableNamed table)).exec env s = (.ok (tableNamed (table.map (ledName b.lead))), s) := by
  cases table with
  | none => rfl
  | some name =>
      change (if (name == ":any") = true then pure (.text name) else Declare.withLead id .tables (.text name) :
        Act Value).exec env s = _
      rw [Option.map_some, ledName]
      by_cases hany : name = ":any"
      · rw [if_pos hany, if_pos (beq_iff_eq.2 hany)]
        rfl
      · rw [if_neg hany, if_neg (mt beq_iff_eq.1 hany), Declare.withLead, exec_bind_ok (exec_builder_of_some hb)]
        exact congrArg (fun v => ((.ok v : Except Fault Value), s)) (NameScope.addPrefixOne_text b.lead name)

/-- A builder changes the hooks as the connection does, for the table with its prefix. -/
theorem exec_through {b : Builder} (hb : s.builders[id]? = some b) (c : HookChange) :
    (c.through.perform id).exec env s = (c.led b.lead).call.perform.exec env s := by
  have hnamed := fun table => @exec_tableOf env s id b hb table
  cases c with
  | register event hook table =>
      change (silently (Hooks.tableOf id (tableNamed table) >>= Hooks.register (.text event) hook)).exec env s = _
      unfold silently
      rw [bind_assoc, exec_bind_ok (hnamed table)]
      rfl
  | remove event table =>
      change (silently (Hooks.tableOf id (tableNamed table) >>= Hooks.remove (.text event))).exec env s = _
      unfold silently
      rw [bind_assoc, exec_bind_ok (hnamed table)]
      rfl

/-- The hooks are all that such a call changes. -/
theorem exists_hooks_after (env : Surroundings) (s : Session) (c : HookChange) :
    ∃ hooks, c.after env s = { s with hooks } := by
  unfold after
  rw [exec_call]
  cases EventKind.ofName? c.event with
  | none => exact ⟨s.hooks, rfl⟩
  | some kind => exact ⟨_, rfl⟩

end HookChange

/-! ### One hook -/

namespace Act

variable {α : Type} {P : Session → Prop}

/-- Where the operation succeeds it does not leave the states. -/
def Stays (env : Surroundings) (P : Session → Prop) (op : Act α) : Prop :=
  ∀ s x t, P s → op.exec env s = (.ok x, t) → P t

theorem Stays.modular : Modular (Stays env P) where
  pure x s y t hs h := by
    cases h
    exact hs
  bind hop hk s y u hs h := by
    obtain ⟨x, t, hx, hy⟩ := exec_bind_eq_ok h
    exact hk x t y u (hop s x t hs hx) hy

theorem Stays.of_keeps {R : Session → Session → Prop} {op : Act α} (h : Keeps R env op)
    (hR : ∀ s t, P s → R s t → P t) : Stays env P op := fun s _ t hs hop => hR s t hs (h.of_exec hop)

end Act

theorem EventKind.covers_iff {kind event : EventKind} :
    kind.covers event = true ↔ kind = event ∨ kind = event.wildcard := by
  cases kind <;> cases event <;> decide

/-- Nothing is registered but the hook for the event in the slot, and that only if so. -/
def HookTable.Alone (kind : EventKind) (slot : String) (hook : Value) (isOn : Bool) (hooks : HookTable) : Prop :=
  ∀ event table, hooks.standing? event (tableNamed table) =
    if isOn = true ∧ event = kind ∧ slotName table = slot then some hook else none

namespace HookTable.Alone

variable {kind : EventKind} {slot : String} {hook : Value} {isOn : Bool} {hooks : HookTable}

theorem empty (kind : EventKind) (slot : String) (hook : Value) : Alone kind slot hook false [] := by
  intro event table
  rw [if_neg fun h => absurd h.1 Bool.false_ne_true]
  rfl

theorem register {table : Option String} (h : s.hooks.Alone kind slot hook isOn) (htable : slotName table = slot) :
    ((HookChange.register kind.name hook table).after env s).hooks.Alone kind slot hook true := by
  intro event other
  rw [HookChange.standing?_after, h event other]
  have hconcerns : (HookChange.register kind.name hook table).concerns event (slotName other) =
      decide (event = kind ∧ slotName other = slot) := by
    have hkind : (kind.name == event.name) = decide (event = kind) := by
      cases kind <;> cases event <;> rfl
    have hslot : (slotName table == slotName other) = decide (slotName other = slot) := by
      rw [htable, Bool.beq_comm]
      rfl
    rw [Bool.decide_and, ← hkind, ← hslot]
    rfl
  rw [hconcerns]
  by_cases hhere : event = kind ∧ slotName other = slot
  · rw [if_pos (decide_eq_true hhere), if_pos ⟨rfl, hhere⟩]
    rfl
  · rw [if_neg (mt of_decide_eq_true hhere), if_neg fun h => hhere h.2, if_neg fun h => hhere h.2]

/-- Only the removal for the same event in the same slot has an effect. -/
theorem remove (h : s.hooks.Alone kind slot hook isOn) (event : String) (table : Option String) :
    ((HookChange.remove event table).after env s).hooks.Alone kind slot hook
      (isOn && !decide (event = kind.name ∧ slotName table = slot)) := by
  intro other table'
  have hconcerns : (HookChange.remove event table).concerns other (slotName table') =
      decide (event = other.name ∧ slotName table = slotName table') := by
    rw [Bool.decide_and]
    rfl
  rw [HookChange.standing?_after, h other table', hconcerns]
  by_cases hhere : other = kind ∧ slotName table' = slot
  · obtain ⟨rfl, rfl⟩ := hhere
    by_cases hremoved : event = other.name ∧ slotName table = slotName table'
    · simp [hremoved, HookChange.hook?]
    · simp [hremoved]
  · rw [if_neg (c := isOn = true ∧ other = kind ∧ _) fun h => hhere h.2,
      if_neg (c := _ ∧ other = kind ∧ _) fun h => hhere h.2]
    exact ite_self none

/-- What runs is the hook, at the events that it is for, on the table whose slot it is in. -/
theorem running? (h : hooks.Alone kind slot hook isOn) (hhook : hook.isNull = false) (event : EventKind)
    (table : Option String) : hooks.running? event (tableNamed table) =
      if isOn = true ∧ kind.covers event = true ∧ slotName table = slot then some hook else none := by
  unfold HookTable.running?
  rw [find?_eq hooks event (isRaw_tableNamed table), h event table, h event.wildcard table]
  have hfound : (if isOn = true ∧ event = kind ∧ slotName table = slot then some hook else none).or
      (if isOn = true ∧ event.wildcard = kind ∧ slotName table = slot then some hook else none) =
      if isOn = true ∧ kind.covers event = true ∧ slotName table = slot then some hook else none := by
    by_cases hcovered : isOn = true ∧ kind.covers event = true ∧ slotName table = slot
    · obtain ⟨hon, hkind, hslot⟩ := hcovered
      rcases EventKind.covers_iff.1 hkind with heq | heq
      · rw [if_pos ⟨hon, heq.symm, hslot⟩, Option.some_or, if_pos ⟨hon, hkind, hslot⟩]
      · rw [if_pos (c := _ ∧ event.wildcard = kind ∧ _) ⟨hon, heq.symm, hslot⟩,
          if_pos (c := _ ∧ kind.covers event = true ∧ _) ⟨hon, hkind, hslot⟩]
        split
        · rfl
        · rfl
    · rw [if_neg fun h => hcovered ⟨h.1, EventKind.covers_iff.2 (.inl h.2.1.symm), h.2.2⟩,
        if_neg fun h => hcovered ⟨h.1, EventKind.covers_iff.2 (.inr h.2.1.symm), h.2.2⟩, if_neg hcovered]
      rfl
  rw [hfound]
  split
  · rw [Option.filter_some, hhook]
    rfl
  · rfl

end HookTable.Alone

/-! ### The tables of a builder -/

/-- The builder declares the tables. With the prefix they are what it selects from. -/
structure Session.Declares (s : Session) (id : Nat) (lead : Option String) (tables : List Value) : Prop where
  exists_builder : id < s.builders.size
  tables : s.tablesOf id = tables.map (NameScope.tables.addPrefixOne lead)

/-- How often the table is among those that are declared. -/
def mentions (table : String) (declared : List Value) : Nat := declared.countP fun v => v.text? = some table

theorem mentions_cons_of_eq {table : String} {v : Value} (hv : v.text? = some table) (declared : List Value) :
    mentions table (v :: declared) = mentions table declared + 1 := List.countP_cons_of_pos (decide_eq_true hv)

theorem mentions_cons_of_ne {table : String} {v : Value} (hv : v.text? ≠ some table) (declared : List Value) :
    mentions table (v :: declared) = mentions table declared := List.countP_cons_of_neg (mt of_decide_eq_true hv)

/-- What is declared is a name or a fragment of SQL. -/
def Value.IsDeclared (v : Value) : Prop := v.isRaw = true ∨ ∃ name, v = .text name

theorem NameScope.addPrefixOne_of_isRaw {v : Value} (h : v.isRaw = true) (lead : Option String) :
    NameScope.tables.addPrefixOne lead v = v := by
  cases v with
  | raw content bindings =>
      unfold addPrefixOne
      split <;> rfl
  | _ => cases h

theorem Value.IsDeclared.isTable {v : Value} (h : v.IsDeclared) (lead : Option String) :
    (NameScope.tables.addPrefixOne lead v).IsTable := by
  rcases h with hraw | ⟨name, rfl⟩
  · rw [NameScope.addPrefixOne_of_isRaw hraw]
    exact .inl hraw
  · rw [NameScope.addPrefixOne_text]
    exact .inr ⟨rfl, _, rfl⟩

/-- The prefix tells no two tables apart that are one, and none that are two. -/
theorem slotName_append_eq_iff {front table name : String} (hany : front ++ table ≠ ":any") (hnamed : table ≠ "") :
    slotName (some (front ++ name)) = front ++ table ↔ name = table := by
  unfold slotName
  rw [Option.getD_some]
  by_cases hempty : front ++ name = ""
  · rw [if_pos hempty]
    constructor
    · exact fun h => absurd h.symm hany
    · rintro rfl
      exact absurd (String.append_eq_empty_iff.1 hempty).2 hnamed
  · rw [if_neg hempty]
    exact String.append_right_inj front

/-- Among the tables of a builder the hook runs for its own table alone. -/
theorem HookTable.Alone.running?_addPrefixOne {kind : EventKind} {front table : String} {hook : Value} {isOn : Bool}
    {hooks : HookTable} (h : hooks.Alone kind (front ++ table) hook isOn) (hhook : hook.isNull = false)
    (hany : front ++ table ≠ ":any") (hnamed : table ≠ "") {lead : Option String} (hfront : lead.getD "" = front)
    (event : EventKind) {v : Value} (hv : v.IsDeclared) :
    hooks.running? event (NameScope.tables.addPrefixOne lead v) =
      if isOn = true ∧ kind.covers event = true ∧ v.text? = some table then some hook else none := by
  rcases hv with hraw | ⟨name, rfl⟩
  · have hother : ¬(isOn = true ∧ kind.covers event = true ∧ v.text? = some table) := by
      rintro ⟨-, -, hname⟩
      cases v with
      | text name => cases hraw
      | _ => cases hname
    rw [NameScope.addPrefixOne_of_isRaw hraw, HookTable.running?, HookTable.find?, if_pos hraw, if_neg hother]
    rfl
  · rw [NameScope.addPrefixOne_text, hfront]
    have hrunning := h.running? hhook event (some (front ++ name))
    simp only [slotName_append_eq_iff hany hnamed] at hrunning
    simp only [Value.text?, Option.some.injEq]
    exact hrunning

namespace Execute

/-! ### Runs of the hook -/

/-- Runs what is registered for exactly this event in the slot, if there is something. -/
def runStanding (kind : EventKind) (slot : String) (call : HookCall) : Act Value := do
  match (← get).hooks.standing? kind (.text slot) with
  | some hook => runHook hook call
  | none => pure .null

/-- The same that often, one after the other. The first failure is the end of it. -/
def repeatStanding (n : Nat) (kind : EventKind) (slot : String) (call : HookCall) : Act (List Value) :=
  (List.replicate n ()).mapM fun _ => runStanding kind slot call

/-- What an operation gives, but for absent values. -/
def present (operation : Act (List Value)) : Act (List Value) := do
  pure ((← operation).filter fun v => !v.isNull)

/-- In these states no other hook is registered than this one, and the builder declares the tables. Where the hook runs
for the builder and returns it does not leave them. It may remove itself. -/
structure StaysAlone (env : Surroundings) (P : Session → Prop) (id : Nat) (kind : EventKind) (slot : String)
    (hook : Value) (lead : Option String) (tables : List Value) : Prop where
  alone : ∀ s, P s → ∃ isOn, s.hooks.Alone kind slot hook isOn
  declares : ∀ s, P s → s.Declares id lead tables
  run : ∀ call, call.builder = id → Stays env P (runHook hook call)

theorem present_cons (op : Act Value) (rest : Act (List Value)) :
    present (op >>= fun v => rest >>= fun vs => pure (v :: vs)) =
      op >>= fun v => present rest >>= fun vs => pure (if v.isNull then vs else v :: vs) := by
  unfold present
  simp only [bind_assoc, pure_bind, List.filter_cons]
  refine bind_congr fun v => bind_congr fun vs => ?_
  cases v.isNull <;> rfl

/-- The hook runs if it is registered. -/
theorem exec_runStanding {kind : EventKind} {slot : String} {hook : Value} {isOn : Bool}
    (hs : s.hooks.Alone kind slot hook isOn) (hslot : slotName (some slot) = slot) (call : HookCall) :
    (runStanding kind slot call).exec env s =
      if isOn = true then (runHook hook call).exec env s else (.ok .null, s) := by
  have hstanding := hs kind (some slot)
  dsimp only [tableNamed, Option.elim] at hstanding
  rw [runStanding, exec_bind, exec_get]
  dsimp only
  rw [hstanding, hslot]
  cases isOn with
  | true => rw [if_pos ⟨rfl, rfl, rfl⟩, if_pos rfl]
  | false => rw [if_neg fun h => Bool.false_ne_true h.1, if_neg Bool.false_ne_true, exec_pure]

section Fire

variable {kind event : EventKind} {front table : String} {hook : Value} {lead : Option String} {tables : List Value}
  {statement : Option Issued} {arguments : Value} {entries : List (Value × Value)}

/-- A table without a hook counts for nothing. -/
theorem exec_present_miss {v : Value} {vs : List Value}
    (hmiss : (fireOn id event statement arguments v).exec env s = (.ok .null, s)) :
    (present ((v :: vs).mapM (fireOn id event statement arguments))).exec env s =
      (present (vs.mapM (fireOn id event statement arguments))).exec env s := by
  rw [List.mapM_cons, present_cons, exec_bind_ok hmiss]
  exact congrArg (fun op : Act (List Value) => op.exec env s) (bind_pure _)

variable {P : Session → Prop} (hany : front ++ table ≠ ":any") (hnamed : table ≠ "")
  (hstays : StaysAlone env P id kind (front ++ table) hook lead tables)

include hany hnamed hstays

/-- Whether it is registered or not, what runs for the builder does not leave the states. -/
theorem stays_runStanding {call : HookCall} (hcall : call.builder = id) :
    Stays env P (runStanding kind (front ++ table) call) := by
  intro s x t hs hrun
  obtain ⟨isOn, halone⟩ := hstays.alone s hs
  rw [exec_runStanding halone ((slotName_append_eq_iff hany hnamed).2 rfl)] at hrun
  cases isOn with
  | true => exact hstays.run call hcall s x t hs hrun
  | false =>
      cases hrun
      exact hs

theorem stays_repeatStanding {call : HookCall} (hcall : call.builder = id) (n : Nat) :
    Stays env P (repeatStanding n kind (front ++ table) call) :=
  Stays.modular.mapM (fun _ => stays_runStanding hany hnamed hstays hcall) _

variable (hhook : hook.isNull = false) (harguments : argumentsOf arguments = .ok entries)

include hhook harguments

/-- At an event on one of the tables of a builder, the hook runs if it is for that event and the table is its own. -/
theorem exec_fireOn_declared (hfront : lead.getD "" = front) {v : Value} (hv : v.IsDeclared) (hP : P s) :
    (fireOn id event statement arguments (NameScope.tables.addPrefixOne lead v)).exec env s =
      if kind.covers event = true ∧ v.text? = some table then
        (runStanding kind (front ++ table) ⟨event, statement, id, entries⟩).exec env s
      else (.ok .null, s) := by
  obtain ⟨isOn, hs⟩ := hstays.alone s hP
  rw [exec_fireOn (hv.isTable lead) harguments, hs.running?_addPrefixOne hhook hany hnamed hfront event hv,
    exec_runStanding hs ((slotName_append_eq_iff hany hnamed).2 rfl)]
  by_cases hhit : kind.covers event = true ∧ v.text? = some table
  · rw [if_pos hhit]
    cases isOn with
    | true => rw [if_pos ⟨rfl, hhit⟩, if_pos rfl]
    | false => rw [if_neg fun h => Bool.false_ne_true h.1, if_neg Bool.false_ne_true]
  · rw [if_neg hhit, if_neg fun h => hhit h.2]

/-- The tables of a builder come to one run of the hook for each declaration of its table. -/
theorem exec_present_tables (hfront : lead.getD "" = front) {declared : List Value}
    (hdeclared : ∀ v ∈ declared, v.IsDeclared) (hP : P s) :
    (present ((declared.map (NameScope.tables.addPrefixOne lead)).mapM
        (fireOn id event statement arguments))).exec env s =
      (present (repeatStanding (if kind.covers event then mentions table declared else 0) kind (front ++ table)
        ⟨event, statement, id, entries⟩)).exec env s := by
  induction declared generalizing s with
  | nil =>
      rw [show mentions table [] = 0 from rfl, ite_self]
      rfl
  | cons v declared ih =>
      have hv := hdeclared v List.mem_cons_self
      have hrest := fun s => @ih s fun other hmem => hdeclared other (List.mem_cons_of_mem v hmem)
      have hfire : (fireOn id event statement arguments (NameScope.tables.addPrefixOne lead v)).exec env s = _ :=
        exec_fireOn_declared hany hnamed hstays hhook harguments hfront hv hP
      rw [List.map_cons]
      by_cases hhit : kind.covers event = true ∧ v.text? = some table
      · rw [if_pos hhit] at hfire
        obtain ⟨hcovers, hname⟩ := hhit
        rw [if_pos hcovers, mentions_cons_of_eq hname, repeatStanding, List.replicate_succ, List.mapM_cons,
          List.mapM_cons, present_cons, present_cons, exec_bind, exec_bind, hfire]
        rcases hrun : (runStanding kind (front ++ table) ⟨event, statement, id, entries⟩).exec env s with ⟨outcome, t⟩
        cases outcome with
        | error fault => rfl
        | ok x =>
            have hequal := hrest t (stays_runStanding hany hnamed hstays rfl s x t hP hrun)
            rw [if_pos hcovers] at hequal
            dsimp only
            rw [exec_bind, exec_bind, hequal]
            rfl
      · have hcount : (if kind.covers event then mentions table (v :: declared) else 0) =
            if kind.covers event then mentions table declared else 0 := by
          split
          · rename_i hcovers
            exact mentions_cons_of_ne (fun heq => hhit ⟨hcovers, heq⟩) declared
          · rfl
        rw [if_neg hhit] at hfire
        rw [hcount, exec_present_miss hfire]
        exact hrest s hP

/-- At an event the hook runs once for each declaration of its table, as long as it is registered. -/
theorem exec_fire_alone (hfront : lead.getD "" = front) (htables : ∀ v ∈ tables, v.IsDeclared) (hP : P s) :
    (fire id event statement arguments).exec env s =
      (present (repeatStanding (if kind.covers event then mentions table tables else 0) kind (front ++ table)
        ⟨event, statement, id, entries⟩)).exec env s := by
  obtain ⟨isOn, hs⟩ := hstays.alone s hP
  obtain ⟨hid, hdeclared⟩ := hstays.declares s hP
  have hb : s.builders[id]? = some s.builders[id] := Array.getElem?_eq_getElem hid
  have hnone : s.hooks.running? event anyTable = none := by
    refine (hs.running? hhook event (some ":any")).trans (if_neg fun h => hany ?_)
    exact h.2.2.symm
  have hmiss : (fireOn id event statement arguments anyTable).exec env s = (.ok .null, s) := by
    rw [exec_fireOn isTable_anyTable harguments, hnone]
  rw [fire_eq, exec_bind_ok (exec_draft hb), ← tablesOf_eq hb, hdeclared]
  change (present ((anyTable :: tables.map (NameScope.tables.addPrefixOne lead)).mapM
    (fireOn id event statement arguments))).exec env s = _
  rw [exec_present_miss hmiss]
  exact exec_present_tables hany hnamed hstays hhook harguments hfront htables hP

end Fire

end Execute

end SqlBuilder
