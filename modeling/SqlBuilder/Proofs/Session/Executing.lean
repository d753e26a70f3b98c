import SqlBuilder.Proofs.Driver.Call
import SqlBuilder.Proofs.Session.Declaring
import SqlBuilder.Session.Call

/-!
Relations between states that the execution of statements keeps. All that such a relation must allow are quiet
changes, the calls of the driver that execute a statement, and a result that is kept for the next fetch.
-/

namespace SqlBuilder

open Act Session

variable {α β : Type} {env : Surroundings} {R : Session → Session → Prop}

/-- The guise in which everything is as it is. -/
def Guise.plain (env : Surroundings) : Guise env where
  view scopes := scopes
  other := env
  holds _ := True
  holds_of_scripted _ _ _ _ := trivial
  fill _ _ _ _ := rfl
  notify _ _ _ _ _ := rfl
  depth := rfl

namespace Session

/-- The relation allows quiet changes. -/
class Lax (R : Session → Session → Prop) : Prop where
  quiet : ∀ s t, Quiet s t → R s t

instance : Lax Extends := ⟨fun _ _ => Quiet.extends⟩

def called (s : Session) (c : DriverCall) : Session :=
  { s with
    driver := c.after s.driver
    journal := s.journal ++ (c.on s.driver).2.2.map Entry.wire }

/-- What the library raises on a fault of the driver: the report of the driver in terms of its own. -/
def raised (s : Session) : Fault → Fault
  | .driver report => report.toFault (some s.driver.engine) s.lastStatement
  | fault => fault

end Session

theorem Act.Keeps.blind [IsPreorder Session R] [Lax R] [env.Keeps R] {op : Act α} (h : Blind (Guise.plain env) op) :
    Keeps R env op := (h.keeps fun _ => trivial).mono fun _ _ hs => hs.of_keeps Lax.quiet

/-- The relation is kept by whatever builders do apart from the driver. -/
class Surroundings.Declares (R : Session → Session → Prop) (env : Surroundings) : Prop where
  working : Working (Act.Keeps R env)

theorem Act.Keeps.working [env.Declares R] : Working (Keeps R env) := Surroundings.Declares.working

/-- The relation is kept by whatever builders do apart from the driver and from taking results that are pending. -/
class Surroundings.Tends (R : Session → Session → Prop) (env : Surroundings) : Prop where
  tending : Tending (Act.Keeps R env)

instance [env.Declares R] : env.Tends R := ⟨Keeps.working.toTending⟩

theorem Act.Keeps.tending [env.Tends R] : Tending (Keeps R env) := Surroundings.Tends.tending

/-- The relation is kept by whatever builders do apart from the driver, from taking results that are pending, and from
referring to other builders. -/
class Surroundings.Minds (R : Session → Session → Prop) (env : Surroundings) : Prop where
  minding : Minding (Act.Keeps R env)

instance [env.Tends R] : env.Minds R := ⟨Keeps.tending.toMinding⟩

theorem Act.Keeps.minding [env.Minds R] : Minding (Keeps R env) := Surroundings.Minds.minding

/-- The relation is kept when a result that is pending is taken. -/
class Surroundings.Takes (R : Session → Session → Prop) (env : Surroundings) : Prop where
  take : ∀ id, Act.Keeps R env (Act.modifyBuilder id fun b => { b with pending := none })

instance [env.Declares R] : env.Takes R := ⟨Keeps.working.take⟩

instance [IsPreorder Session R] [Lax R] [env.Keeps R] : env.Declares R where
  working := (Blind.working (g := .plain env)).imp Keeps.modular (fun hk => .read_bind (hk _)) .blind

/-- The relation is kept by the scripts of groups and hooks and by the calls of the driver that execute a statement. -/
class Surroundings.Sends (R : Session → Session → Prop) (env : Surroundings) : Prop extends env.Keeps R where
  statement : ∀ (c : DriverCall) (s : Session), c.IsStatement → R s (s.called c)

/-- The relation is kept by the scripts of groups and hooks and by all that the execution of a statement is made
of. -/
class Surroundings.Executes (R : Session → Session → Prop) (env : Surroundings) : Prop extends env.Sends R where
  /-- The result of an execution that has succeeded is kept for the next fetch. -/
  pending : ∀ (id : Nat) (before after : EventKind) (i : Issued) (result : QueryResult) (s t : Session),
    (Execute.around id before after i).exec env s = (.ok result, t) → R s t →
    R s { t with builders := t.builders.modify id fun b => { b with pending := some result } }

namespace Execute

/-- The fault of a driver is raised as one of the library, or as it is if it is no report. -/
theorem exec_reported (operation : Driver → Except Fault α × Driver × List WireEntry) (s : Session) :
    (reported operation).exec env s =
      let t : Session :=
        { s with
          driver := (operation s.driver).2.1
          journal := s.journal ++ (operation s.driver).2.2.map Entry.wire }
      match (operation s.driver).1 with
      | .ok x => (.ok x, t)
      | .error fault => (.error (t.raised fault), t) := by
  unfold reported
  rw [exec_tryCatch, exec_driver]
  cases (operation s.driver).1 with
  | ok x => rfl
  | error fault => cases fault <;> rfl

/-- An operation of the driver changes the driver and the journal alone. -/
theorem reported_snd (operation : Driver → Except Fault α × Driver × List WireEntry) (s : Session) :
    ((reported operation).exec env s).2 =
      { s with
        driver := (operation s.driver).2.1
        journal := s.journal ++ (operation s.driver).2.2.map Entry.wire } := by
  rw [exec_reported]
  dsimp only
  split
  · rfl
  · rfl

theorem exec_reported_call {operation : Driver → Except Fault Unit × Driver × List WireEntry} (c : DriverCall)
    (h : ∀ d, operation d = c.on d) (s : Session) : (reported operation).exec env s =
      match (c.on s.driver).1 with
      | .ok x => (.ok x, s.called c)
      | .error fault => (.error ((s.called c).raised fault), s.called c) := by
  rw [exec_reported, h]
  dsimp only
  cases hcall : (c.on s.driver).1 with
  | ok x => rfl
  | error fault => rfl

/-- The check fails, or there is a builder whose scope, if it works in one, has not ended. -/
theorem requireOpen_cases (env : Surroundings) (id : Nat) (s : Session) :
    (∃ fault, (requireOpen id).exec env s = (.error fault, s)) ∨
    ∃ b : Builder, s.builders[id]? = some b ∧ (requireOpen id).exec env s = (.ok (), s) ∧
      ∀ scope, b.role = .transaction scope → s.scopes[scope]?.getD none = none := by
  unfold requireOpen
  rw [exec_bind, exec_builder]
  cases s.builders[id]? with
  | none => exact .inl ⟨.missingMember, rfl⟩
  | some b =>
      dsimp only
      cases hrole : b.role with
      | transaction scope =>
          have hstatus : (Act.scopeStatus scope).exec env s = (.ok (s.scopes[scope]?.getD none), s) := rfl
          dsimp only
          rw [exec_bind_ok hstatus]
          cases hscope : s.scopes[scope]?.getD none with
          | some status => exact .inl ⟨_, rfl⟩
          | none =>
              refine .inr ⟨b, rfl, rfl, fun other hother => ?_⟩
              rw [hrole] at hother
              cases hother
              exact hscope
      | _ =>
          refine .inr ⟨b, rfl, rfl, fun other hother => ?_⟩
          rw [hrole] at hother
          cases hother

/-- Whether a builder may execute depends on its role alone, and on the scopes. -/
theorem exec_requireOpen_eq {env : Surroundings} {s t : Session} {id c : Nat} {b bc : Builder}
    (hb : s.builders[id]? = some b) (hbc : t.builders[c]? = some bc) (hrole : bc.role = b.role)
    (hscopes : t.scopes = s.scopes) : (requireOpen c).exec env t = (((requireOpen id).exec env s).1, t) := by
  unfold requireOpen
  rw [exec_bind_ok (exec_builder_of_some hb), exec_bind_ok (exec_builder_of_some hbc), hrole]
  cases b.role with
  | transaction scope =>
      have hstatus : (Act.scopeStatus scope).exec env s = (.ok (s.scopes[scope]?.getD none), s) := rfl
      have hstatus' : (Act.scopeStatus scope).exec env t = (.ok (s.scopes[scope]?.getD none), t) := hscopes ▸ rfl
      dsimp only
      rw [exec_bind_ok hstatus, exec_bind_ok hstatus']
      cases s.scopes[scope]?.getD none <;> rfl
  | _ => rfl

variable [IsPreorder Session R]

theorem keeps_scopeStatus (scope : Nat) : Keeps R env (Act.scopeStatus scope) := .bind .get fun _ => .pure _

theorem keeps_requireOpen (id : Nat) : Keeps R env (requireOpen id) := by
  refine .bind (.builder id) fun b => ?_
  split
  · refine .bind (keeps_scopeStatus _) fun _ => ?_
    split
    · exact .throw _
    · exact .pure _
  · exact .pure _

section Calls

omit [IsPreorder Session R]

variable [env.Sends R]

theorem keeps_execute (sql : Value) (values : List Value) : Keeps R env (reported fun d => d.execute sql values) := by
  intro s
  rw [reported_snd]
  exact Surroundings.Sends.statement env (.execute sql values) s trivial

theorem keeps_askInsertId : Keeps R env (Act.driver fun d => d.lastInsertId) := by
  intro s
  rw [exec_driver]
  exact Surroundings.Sends.statement env .askInsertId s trivial

end Calls

variable [env.Sends R]

theorem keeps_statement (id : Nat) (sql values : Value) : Keeps R env (statement id sql values) :=
  .bind (keeps_requireOpen id) fun _ => .bind (.lift _) fun _ => .bind (keeps_execute _ _) fun _ =>
    .bind (.check _) fun _ => .pure _

variable [env.Minds R]

theorem keeps_around (id : Nat) (before after : EventKind) (s : Issued) :
    Keeps R env (around id before after s) :=
  .bind (Keeps.minding.fire _ _ _ _) fun _ => .bind (keeps_statement _ _ _) fun _ =>
    .bind (Keeps.minding.fire _ _ _ _) fun _ => .pure _

theorem keeps_insertRow (id : Nat) (verb : InsertVerb) (data : Value) :
    Keeps R env (insertRow id verb data) := by
  refine .bind (Keeps.minding.prepare _ _) fun _ => .bind (Keeps.minding.fire _ _ _ _) fun _ => ?_
  refine .bind (keeps_statement _ _ _) fun _ => ?_
  dsimp only
  split
  · refine .bind (keeps_askInsertId) fun _ => ?_
    exact .bind (Keeps.minding.fire _ _ _ _) fun _ => .pure _
  · refine .bind (.pure _) fun _ => ?_
    exact .bind (Keeps.minding.fire _ _ _ _) fun _ => .pure _

theorem keeps_update (id : Nat) (data : Value) : Keeps R env (update id data) :=
  .bind (Keeps.minding.prepare _ _) fun _ => keeps_around _ _ _ _

theorem keeps_delete (id : Nat) (columns : Value) : Keeps R env (delete id columns) :=
  .bind (Keeps.minding.prepare _ _) fun _ => keeps_around _ _ _ _

omit [env.Sends R] [env.Minds R]

variable [env.Executes R] [env.Minds R]

theorem keeps_query (id : Nat) (sql values : Value) : Keeps R env (query id sql values) := by
  refine .bind (.lift _) fun _ => .bind .get fun _ => .bind (Keeps.minding.remember _) fun _ => ?_
  refine fun s => Keeps.bind_at (keeps_around _ _ _ _) fun result t h => ?_
  exact Surroundings.Executes.pending id _ _ _ result s t h ((keeps_around _ _ _ _).of_exec h)

variable [env.Takes R]

theorem keeps_selectRows (id : Nat) : Keeps R env (selectRows id) := by
  refine .bind (Keeps.minding.prepare _ _) fun _ => .bind (Keeps.minding.fire _ _ _ _) fun _ => ?_
  refine .bind (Keeps.minding.prepare _ _) fun _ => .bind (.builder _) fun _ => ?_
  dsimp only
  split
  · refine .bind (keeps_statement _ _ _) fun _ => ?_
    exact .bind (Keeps.minding.fire _ _ _ _) fun _ => .pure _
  · refine .bind (Surroundings.Takes.take _) fun _ => .bind (.pure _) fun _ => ?_
    exact .bind (Keeps.minding.fire _ _ _ _) fun _ => .pure _

theorem keeps_fetchAll (id : Nat) : Keeps R env (fetchAll id) := by
  refine .bind (keeps_selectRows _) fun _ => .bind (.builder _) fun _ => ?_
  dsimp only
  split
  · exact .pure _
  · exact .lift _

theorem keeps_first (id : Nat) : Keeps R env (first id) :=
  .bind (Keeps.minding.modifyDraft _ (fun _ => rfl) fun _ => rfl) fun _ => .bind (keeps_fetchAll _) fun _ => .pure _

omit [env.Executes R] [env.Takes R] in
theorem keeps_withProjection (id : Nat) (projection : List Field) {operation : Act α}
    (h : Keeps R env operation) : Keeps R env (withProjection id projection operation) := by
  refine .bind (.draft _) fun _ => .bind (Keeps.minding.modifyDraft _ (fun _ => rfl) fun _ => rfl) fun _ => ?_
  refine .bind (.tryCatch (.bind h fun _ => .pure _) fun _ => .pure _) fun _ => ?_
  exact .bind (Keeps.minding.modifyDraft _ (fun _ => rfl) fun _ => rfl) fun _ => .lift _

theorem keeps_expressionRows (id : Nat) (expression : Value) :
    Keeps R env (expressionRows id expression) := by
  refine .bind (.draft _) fun _ => ?_
  split
  · refine .bind (Keeps.minding.builderValue _) fun _ => ?_
    refine .bind (Keeps.minding.subQuery _ _) fun _ => ?_
    refine .bind (Keeps.minding.table _ _) fun _ => .bind (.builder _) fun _ => ?_
    exact .bind (Keeps.minding.modifyDraft _ (fun _ => rfl) fun _ => rfl) fun _ => keeps_selectRows _
  · exact keeps_withProjection _ _ (keeps_selectRows _)

theorem keeps_aggregate (id : Nat) (function : String) (field : Value) :
    Keeps R env (aggregate id function field) := by
  refine .bind (.draft _) fun _ => ?_
  refine Modular.joined (P := Keeps R env) (fun _ => ?_) fun h => .bind (.lift _) fun _ => .bind (.throw _) h
  refine Keeps.modular.whenever (.throw _) fun _ => ?_
  refine .bind (.lift _) fun _ => .bind Keeps.minding.dialect fun _ => .bind (.lift _) fun _ => ?_
  refine .bind (keeps_expressionRows _ _) fun _ => ?_
  split
  · exact .pure _
  · exact .pure _
  · exact .bind (.lift _) fun _ => Keeps.minding.marked _

end Execute

end SqlBuilder
