import SqlBuilder.Proofs.Session.HandedOver
import SqlBuilder.Proofs.Session.Firing

/-!
Sessions without hooks. No event calls anything there, so that what an execution does to the last statement that is
noted can be told from the execution alone. The scripts of groups may still run while statements are made; they may do
anything but register hooks, and leave no pending result where there was none.
-/

namespace SqlBuilder

open Act

variable {α β : Type} {env : Surroundings} {s t u : Session}

namespace Move

/-- The statement that the move hands to the driver, if it hands one over. -/
def handed? : Move → Option (Value × List Value)
  | call (.execute sql values) => some (sql, values)
  | _ => none

/-- The statements that the moves hand to the driver, in order. -/
def handed (ms : List Move) : List (Value × List Value) := ms.filterMap handed?

theorem handed_append (ms ms' : List Move) : handed (ms ++ ms') = handed ms ++ handed ms' := List.filterMap_append

end Move

namespace Session

/-- No event has a hook on any table. -/
def Hookless (s : Session) : Prop := ∀ event table, s.hooks.running? event table = none

theorem hookless_of_nil (h : s.hooks = []) : s.Hookless := by
  intro event table
  unfold HookTable.running? HookTable.find?
  rw [h]
  split
  · rfl
  · rfl

/-- The builder has no pending result. -/
def Vacant (s : Session) (id : Nat) : Prop := ∃ b : Builder, s.builders[id]? = some b ∧ b.pending = none

/-- The last statement that is noted, as SQL with its values. -/
def lastNoted (s : Session) : Option (Value × List Value) := s.lastStatement.map fun i => (i.sql, i.bindings)

/-- What the scripts of groups may do: take a course, as long as they register no hook and leave no pending result
where there was none. -/
structure Unhooked (s t : Session) : Prop where
  course : ∃ ms, Course s ms t
  hookless : s.Hookless → t.Hookless
  vacant : ∀ id, s.Vacant id → t.Vacant id

/-- Without hooks, nothing is handed to the driver as a statement, and none is noted. -/
def Rests (s t : Session) : Prop := s.Hookless →
  t.Hookless ∧ (∃ ms, Course s ms t ∧ Move.handed ms = []) ∧ t.lastStatement = s.lastStatement

/-- Nothing but drafts and builders changes, and no builder gets a pending result. -/
structure Bare (s t : Session) : Prop where
  quiet : Quiet s t
  hooks : t.hooks = s.hooks
  lastStatement : t.lastStatement = s.lastStatement

instance : IsPreorder Session Unhooked where
  refl s := ⟨⟨[], .refl s⟩, id, fun _ => id⟩
  trans s t u h h' := by
    obtain ⟨ms, hcourse⟩ := h.course
    obtain ⟨ms', hcourse'⟩ := h'.course
    exact ⟨⟨_, hcourse.append hcourse'⟩, fun hs => h'.hookless (h.hookless hs),
      fun id hs => h'.vacant id (h.vacant id hs)⟩

instance : IsPreorder Session Rests where
  refl s hs := ⟨hs, ⟨[], .refl s, rfl⟩, rfl⟩
  trans s t u h h' hs := by
    obtain ⟨ht, ⟨ms, hcourse, hms⟩, hlast⟩ := h hs
    obtain ⟨hu, ⟨ms', hcourse', hms'⟩, hlast'⟩ := h' ht
    refine ⟨hu, ⟨_, hcourse.append hcourse', ?_⟩, hlast'.trans hlast⟩
    rw [Move.handed_append, hms, hms', List.append_nil]

instance : IsPreorder Session Bare where
  refl s := ⟨.refl s, rfl, rfl⟩
  trans _ _ _ h h' := ⟨h.quiet.trans h'.quiet, h'.hooks.trans h.hooks, h'.lastStatement.trans h.lastStatement⟩

/-- A course that hands nothing over while the hooks and the last statement stay. -/
theorem Rests.of_course {ms : List Move} (h : Course s ms t) (hms : Move.handed ms = []) (hhooks : t.hooks = s.hooks)
    (hlast : t.lastStatement = s.lastStatement) : Rests s t := by
  refine fun hs => ⟨fun event table => ?_, ⟨ms, h, hms⟩, hlast⟩
  rw [hhooks]
  exact hs event table

theorem Bare.rests (h : Bare s t) : Rests s t := .of_course (.of_quiet h.quiet) rfl h.hooks h.lastStatement

theorem Quiet.vacant (h : Quiet s t) {id : Nat} (hs : s.Vacant id) : t.Vacant id := by
  obtain ⟨b, hb, hnone⟩ := hs
  obtain ⟨b', hb', -, hpending⟩ := h.builders id b hb
  exact ⟨b', hb', hpending hnone⟩

/-- Quiet changes that leave the hooks alone. -/
theorem Unhooked.of_quiet (h : Quiet s t) (hhooks : t.hooks = s.hooks) : Unhooked s t := by
  refine ⟨⟨[], .of_quiet h⟩, fun hs event table => ?_, fun _ => h.vacant⟩
  rw [hhooks]
  exact hs event table

theorem Bare.unhooked (h : Bare s t) : Unhooked s t := .of_quiet h.quiet h.hooks

theorem bare_modifyDraftAt (s : Session) (number : Nat) (f : Draft → Draft) :
    Bare s { s with drafts := s.drafts.modify number f } := ⟨.of_eq rfl rfl rfl rfl, rfl, rfl⟩

theorem bare_modifyBuilder (s : Session) (id : Nat) {f : Builder → Builder} (hrole : ∀ b, (f b).role = b.role)
    (hpending : ∀ b, b.pending = none → (f b).pending = none) :
    Bare s { s with builders := s.builders.modify id f } := ⟨.modifyBuilder s id hrole hpending, rfl, rfl⟩

theorem bare_addDraft (s : Session) (d : Draft) : Bare s { s with drafts := s.drafts.push d } :=
  ⟨.of_eq rfl rfl rfl rfl, rfl, rfl⟩

theorem bare_addBuilder (s : Session) (b : Builder) : Bare s { s with builders := s.builders.push b } :=
  ⟨.pushBuilder s b, rfl, rfl⟩

end Session

open Session

/-! ### Drafts and builders -/

namespace Act.Keeps

theorem bare_modifyDraft (id : Nat) (f : Draft → Draft) : Keeps Bare env (Act.modifyDraft id f) :=
  .bind (.bind (.builder id) fun _ => .pure _) fun _ s => bare_modifyDraftAt s _ f

theorem bare_drafting (id : Nat) (change : Drafting α) : Keeps Bare env (Act.drafting id change) :=
  .bind (.draft id) fun _ => .bind (bare_modifyDraft id _) fun _ => .lift _

theorem bare_newBuilder (role : BuilderRole) : Keeps Bare env (Act.newBuilder role) :=
  .bind (fun s => bare_addDraft s _) fun _ => .bind .get fun _ s => bare_addBuilder s _

theorem bare_clone (depth id : Nat) : Keeps Bare env (Declare.clone depth id) :=
  modular.clone .throw .builder .draft (fun _ s => bare_addDraft s _) (fun _ s => bare_addBuilder s _) depth id

theorem bare_builderFor (id scope : Nat) : Keeps Bare env (Transaction.builderFor id scope) := by
  refine .bind (bare_newBuilder _) fun _ => .bind .read fun _ => .bind (bare_clone _ _) fun _ => ?_
  refine .bind (.builder _) fun copy => .bind (fun s => ?_) fun _ => .pure _
  exact bare_modifyBuilder s _ (fun _ => rfl) fun _ hnone => hnone

theorem bare_setTables (id : Nat) (tables : List Value) : Keeps Bare env (Declare.setTables id tables) :=
  .bind (.builder _) fun _ => bare_drafting _ _

theorem bare_table (id : Nat) (tables : List Value) : Keeps Bare env (Declare.table id tables) := by
  unfold Declare.table
  split
  · exact .bind (bare_setTables _ _) fun _ => .pure _
  · refine .bind (.bind (.builder _) fun _ => bare_newBuilder _) fun _ => ?_
    exact .bind (bare_setTables _ _) fun _ => .pure _

/-! ### Making statements -/

variable [env.Keeps Unhooked]

theorem unhooked_making : Making (Keeps Unhooked env) :=
  making (fun role => (bare_newBuilder role).mono fun _ _ => Bare.unhooked)
    fun _ _ => .of_quiet (.of_eq rfl rfl rfl rfl) rfl

theorem unhooked_declaring : Declaring (fun _ => Keeps Unhooked env) (fun _ => True) fun _ => True where
  making := unhooked_making
  newBuilder_bind hf := .bind (unhooked_making.newBuilder _) hf
  draftOf_bind _ hf := .bind (unhooked_making.draftOf _) fun n => hf n trivial
  modifyDraftAt _ _ _ s := (bare_modifyDraftAt s _ _).unhooked
  drafting _ _ := (bare_drafting _ _).mono fun _ _ => Bare.unhooked

theorem unhooked_condition (id : Nat) (joiner : String) (key operator operand : Value) :
    Keeps Unhooked env (Declare.condition id joiner key operator operand) :=
  unhooked_declaring.condition (K := []) (.inl trivial) joiner key operator operand

end Act.Keeps

/-! ### The hooks of an event -/

namespace Session

/-- Without hooks nothing changes. -/
def Intact (s t : Session) : Prop := s.Hookless → t = s

instance : IsPreorder Session Intact where
  refl _ _ := rfl
  trans s t u h h' hs := by
    obtain rfl := h hs
    exact h' hs

theorem Intact.rests (h : Intact s t) : Rests s t := by
  intro hs
  obtain rfl := h hs
  exact refl_of Rests t hs

end Session

/-- The table can be looked up among the hooks. A fragment of SQL need not be. -/
def Value.Attendable (table : Value) : Prop := table.isRaw = true ∨ (HookTable.slot table).isKey = true

instance (table : Value) : Decidable table.Attendable := inferInstanceAs (Decidable (_ ∨ _))

namespace Execute

theorem exec_hookFor_hookless (hs : s.Hookless) {event : EventKind} {table : Value} {found : Option Value}
    (h : (hookFor event table).exec env s = (.ok found, t)) : found = none ∧ t = s := by
  unfold hookFor at h
  split at h
  · cases h
    exact ⟨rfl, rfl⟩
  · obtain ⟨_, u, hslot, h⟩ := exec_bind_eq_ok h
    rw [exec_lift] at hslot
    obtain rfl : s = u := congrArg Prod.snd hslot
    cases h
    exact ⟨hs event table, rfl⟩

theorem intact_fireOn (id : Nat) (event : EventKind) (statement : Option Issued) (arguments table : Value) :
    Keeps Intact env (fireOn id event statement arguments table) := by
  intro s
  have hlook : Keeps Intact env (hookFor event table) := by
    unfold hookFor
    split
    · exact .pure _
    · exact .bind (.lift _) fun _ => .bind .get fun _ => .pure _
  refine Keeps.bind_at hlook fun found t h hs => ?_
  obtain ⟨rfl, rfl⟩ := exec_hookFor_hookless hs h
  rfl

/-- An event without hooks changes nothing, whatever comes of it. -/
theorem intact_fire (id : Nat) (event : EventKind) (statement : Option Issued) (arguments : Value) :
    Keeps Intact env (fire id event statement arguments) := by
  rw [fire_eq]
  exact .bind (.draft id) fun d => .bind (Keeps.modular.mapM (intact_fireOn _ _ _ _) _) fun _ => .pure _

/-- Without hooks it only matters whether the table can be looked up. -/
theorem exec_fireOn_hookless (hs : s.Hookless) (id : Nat) (event : EventKind) (statement : Option Issued)
    (arguments table : Value) : (fireOn id event statement arguments table).exec env s =
      (if table.Attendable then .ok .null else .error .typeMismatch, s) := by
  have hlook : (hookFor event table).exec env s =
      (if table.Attendable then .ok none else .error .typeMismatch, s) := by
    cases hraw : table.isRaw with
    | true =>
        unfold hookFor
        rw [if_pos hraw, if_pos (.inl hraw)]
        rfl
    | false =>
        have hattendable : table.Attendable ↔ (HookTable.slot table).isKey = true := by
          simp [Value.Attendable, hraw]
        unfold hookFor HookTable.slot?
        simp only [hattendable, hraw, Bool.false_eq_true, if_false]
        by_cases hkey : (HookTable.slot table).isKey = true
        · rw [if_pos hkey, if_pos hkey]
          exact congrArg (fun found => (Except.ok found, s)) (hs event table)
        · rw [if_neg hkey, if_neg hkey]
          rfl
  unfold fireOn
  rw [exec_bind, hlook]
  by_cases h : table.Attendable
  · rw [if_pos h, if_pos h]
    rfl
  · rw [if_neg h, if_neg h]

/-- An event without hooks fails only if a table cannot be looked up. -/
theorem exec_fire_hookless (hs : s.Hookless) {id : Nat} {b : Builder} (hb : s.builders[id]? = some b)
    (event : EventKind) (statement : Option Issued) (arguments : Value) :
    (fire id event statement arguments).exec env s =
      (if ∀ table ∈ s.tablesOf id, table.Attendable then .ok [] else .error .typeMismatch, s) := by
  have hall : ∀ tables : List Value, (tables.mapM (fireOn id event statement arguments)).exec env s =
      (if ∀ table ∈ tables, table.Attendable then .ok (tables.map fun _ => .null) else .error .typeMismatch,
        s) := by
    intro tables
    induction tables with
    | nil => rfl
    | cons table tables ih =>
        rw [List.mapM_cons, exec_bind, exec_fireOn_hookless hs]
        by_cases h : table.Attendable
        · rw [if_pos h]
          dsimp only
          rw [exec_bind, ih]
          by_cases hrest : ∀ table ∈ tables, table.Attendable
          · rw [if_pos hrest, if_pos (List.forall_mem_cons.2 ⟨h, hrest⟩)]
            rfl
          · rw [if_neg hrest, if_neg fun hboth => hrest (List.forall_mem_cons.1 hboth).2]
        · rw [if_neg h, if_neg fun hboth => h (List.forall_mem_cons.1 hboth).1]
  have hany : anyTable.Attendable := .inr rfl
  rw [fire_eq, exec_bind_ok (exec_draft hb), exec_bind, hall, ← tablesOf_eq hb]
  by_cases h : ∀ table ∈ s.tablesOf id, table.Attendable
  · rw [if_pos h, if_pos (List.forall_mem_cons.2 ⟨hany, h⟩)]
    simp [Value.isNull]
  · rw [if_neg h, if_neg fun hboth => h (List.forall_mem_cons.1 hboth).2]

end Execute

/-! ### What is about to be handed over -/

namespace Execution

open Execute

variable {id : Nat} {x : Execution} {i : Issued} {result : QueryResult}

theorem unhooked_make [env.Keeps Unhooked] (id : Nat) (x : Execution) : Keeps Unhooked env (x.make id) :=
  Keeps.unhooked_making.make .get id x

theorem unhooked_ready [env.Keeps Unhooked] (id : Nat) (x : Execution) : Keeps Unhooked env (x.ready id) :=
  Keeps.unhooked_making.ready .get id x

/-- Without hooks the statement that is about to be handed over is the one that was noted last. -/
theorem lastStatement_of_ready_hookless [env.Keeps Unhooked] (hs : s.Hookless)
    (h : (x.ready id).exec env s = (.ok i, t)) : t.lastStatement = some i := by
  refine (lastStatement_of_ready h).1 (.inr (congrArg Session.lastStatement ?_))
  obtain ⟨early, hmake, -⟩ := ready_eq_ok h
  have hfree : (x.noted env id s).Hookless := ((unhooked_make id x).of_exec hmake).hookless hs
  unfold hooked
  rw [exec_bind_ok hmake]
  exact intact_fire _ _ _ _ _ hfree

end Execution

end SqlBuilder
