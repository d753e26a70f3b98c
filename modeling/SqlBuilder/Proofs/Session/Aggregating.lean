import SqlBuilder.Proofs.Session.Run
import SqlBuilder.Session.Call

/-!
Aggregates step by step. A draft that shapes its rows is compiled and put into a new builder, which selects the
function over them. Any other draft selects the function itself, and has its projection and its order back afterwards.
-/

namespace SqlBuilder

open Act

variable {α : Type} {env : Surroundings} {s t u : Session} {id : Nat} {b : Builder}

namespace BuilderCall

/-- The function over rows that the call works out, with the field that it is worked out for. -/
def summary? : BuilderCall → Option (String × Value)
  | count field => some ("count", field)
  | aggregate function field => some (function.name, field)
  | _ => none

/-- The result of the function as the call gives it: a number of rows has no fraction. -/
def rounded : BuilderCall → Value → Except Fault Value
  | count _ => Execute.wholeOf
  | _ => pure

theorem perform_summary {c : BuilderCall} {function : String} {field : Value}
    (hc : c.summary? = some (function, field)) (id : Nat) :
    c.perform id = (do Act.lift (c.rounded (← Execute.aggregate id function field))) := by
  cases c with
  | count f =>
      cases hc
      rfl
  | aggregate f g =>
      cases hc
      exact (bind_pure _).symm
  | _ => cases hc

end BuilderCall

namespace Draft

/-- The expression that an aggregate over the draft selects. Its field must be selected if the draft selects any, and
the draft must have a table. -/
def summary (d : Draft) (dialect : Dialect) (function : String) (field : Value) : Except Fault Value := do
  let selects := (d.selects.getD []).map Field.toValue
  if !field.same (.text "*") && !selects.isEmpty && !field.isAmong selects then
    throw (.sql (.columnNotSelected (← field.written)))
  if d.tables.toList.isEmpty then throw (.sql .noTable)
  let operand ← field.written
  let name ← dialect.identifier (.text "field")
  pure (.raw (.text (Text.upper function ++ "(" ++ operand ++ ") AS " ++ name)) [])

theorem summary_eq_ok {d : Draft} {dialect : Dialect} {function : String} {field expression : Value}
    (h : d.summary dialect function field = .ok expression) : ∃ operand name, field.written = .ok operand ∧
      dialect.identifier (.text "field") = .ok name ∧
      expression = .raw (.text (Text.upper function ++ "(" ++ operand ++ ") AS " ++ name)) [] := by
  unfold summary at h
  dsimp only at h
  cases hwritten : field.written with
  | error fault =>
      rw [hwritten] at h
      split at h
      · cases h
      · split at h <;> cases h
  | ok operand =>
      rw [hwritten] at h
      split at h
      · cases h
      · split at h
        · cases h
        · cases hname : dialect.identifier (.text "field") with
          | error fault =>
              rw [hname] at h
              cases h
          | ok name =>
              rw [hname] at h
              cases h
              exact ⟨operand, name, rfl, rfl, rfl⟩

/-- The field can have a function over it: it is selected, if the draft selects anything but all columns. -/
def Offers (d : Draft) (field : Value) : Prop :=
  field.same (.text "*") = true ∨ d.selects.getD [] = [] ∨ field.isAmong ((d.selects.getD []).map Field.toValue) = true

/-- A field is refused if it is not offered. -/
theorem refusal_eq_false_iff {d : Draft} {field : Value} :
    (!field.same (.text "*") && !((d.selects.getD []).map Field.toValue).isEmpty &&
      !field.isAmong ((d.selects.getD []).map Field.toValue)) = false ↔ d.Offers field := by
  unfold Offers
  rw [Bool.and_eq_false_iff, Bool.and_eq_false_iff, Bool.not_eq_false', Bool.not_eq_false', Bool.not_eq_false',
    List.isEmpty_iff, List.map_eq_nil_iff, or_assoc]

theorem summary_of_offers {d : Draft} {dialect : Dialect} {field : Value} {operand name : String}
    (htables : d.tables.toList ≠ []) (hoffers : d.Offers field) (hoperand : field.written = .ok operand)
    (hname : dialect.identifier (.text "field") = .ok name) (function : String) : d.summary dialect function field =
      .ok (.raw (.text (Text.upper function ++ "(" ++ operand ++ ") AS " ++ name)) []) := by
  unfold summary
  dsimp only
  rw [refusal_eq_false_iff.2 hoffers, List.isEmpty_eq_false_iff.2 htables, hoperand, hname]
  rfl

theorem summary_of_not_offers {d : Draft} {field : Value} {operand : String} (h : ¬d.Offers field)
    (hoperand : field.written = .ok operand) (dialect : Dialect) (function : String) :
    d.summary dialect function field = .error (.sql (.columnNotSelected operand)) := by
  unfold summary
  dsimp only
  rw [if_pos (Bool.not_eq_false _ ▸ mt refusal_eq_false_iff.1 h), hoperand]
  rfl

theorem summary_of_no_table {d : Draft} {field : Value} (htables : d.tables.toList = []) (hoffers : d.Offers field)
    (dialect : Dialect) (function : String) : d.summary dialect function field = .error (.sql .noTable) := by
  unfold summary
  dsimp only
  rw [refusal_eq_false_iff.2 hoffers, htables]
  rfl

/-- The draft as it is while it selects an expression. -/
def swapped (expression : Value) (d : Draft) : Draft := { d with selects := some [.plain expression], orderBys := none }

/-- The draft of a new builder that selects an expression over a fragment of SQL. -/
def wrapping (fragment expression : Value) : Draft where
  tables := .declared [fragment]
  selects := some [.plain expression]

end Draft

namespace Session

/-- The session with a new builder that selects an expression over a fragment of SQL. -/
def wrapping (s : Session) (role : BuilderRole) (fragment expression : Value) : Session :=
  { s with
    drafts := s.drafts.push (.wrapping fragment expression)
    builders := s.builders.push ⟨role, s.drafts.size, s.lead, .bool s.overwriting, .null, none⟩ }

/-- The session while a draft selects an expression. -/
def swapping (s : Session) (draft : Nat) (expression : Value) : Session :=
  { s with drafts := s.drafts.modify draft (.swapped expression) }

/-- A draft gets its projection and its order back. -/
def restoring (s : Session) (draft : Nat) (former : Draft) : Session :=
  { s with drafts := s.drafts.modify draft fun d => { d with selects := former.selects, orderBys := former.orderBys } }

end Session

/-- The entry that was added last is changed. -/
theorem modify_push_size (xs : Array α) (x : α) (f : α → α) : (xs.push x).modify xs.size f = xs.push (f x) := by
  refine Array.ext_getElem? fun i => ?_
  rw [Array.getElem?_modify, Array.getElem?_push, Array.getElem?_push]
  by_cases h : i = xs.size
  · rw [if_pos h, if_pos h, if_pos h.symm, Option.map_some]
  · rw [if_neg h, if_neg h, if_neg (Ne.symm h)]

theorem NameScope.addPrefixOne_raw (scope : NameScope) (front : Option String) (content : Value)
    (bindings : List Value) : scope.addPrefixOne front (.raw content bindings) = .raw content bindings := by
  unfold addPrefixOne
  split <;> rfl

namespace Execute

/-- Whatever comes of the operation, the draft that the builder then has gets the projection and the order back. -/
theorem exec_withProjection {operation : Act α} {outcome : Except Fault α} {b' : Builder} {expression : Value}
    (hb : s.builders[id]? = some b)
    (hop : operation.exec env (s.swapping b.draft expression) = (outcome, t)) (hb' : t.builders[id]? = some b') :
    (withProjection id [.plain expression] operation).exec env s =
      (outcome, t.restoring b'.draft (s.drafts[b.draft]?.getD {})) := by
  unfold withProjection
  rw [exec_bind_ok (exec_draft hb), exec_bind_ok (exec_modifyDraft hb _)]
  change (tryCatch (do pure (Except.ok (← operation))) (fun fault => pure (.error fault)) >>= _).exec env
    (s.swapping b.draft expression) = _
  rw [exec_bind_ok (exec_observed operation), hop]
  change (Act.modifyDraft id _ >>= fun _ => Act.lift outcome).exec env t = _
  rw [exec_bind_ok (exec_modifyDraft hb' _), exec_lift]
  rfl

end Execute

namespace Declare

/-- The statement of the builder as a fragment with a short name. -/
theorem exec_subQuery {kind : BuilderKind} {shortName : Value} {q : Query} {name : String}
    (hcompile : (compile id .select).exec env s = (.ok q, t)) (hnull : shortName.isNull = false)
    (hname : (Dialect.ofEngine t.driver.engine).identifier shortName = .ok name) :
    (subQuery (.builder kind id) shortName).exec env s =
      (.ok (.raw (.text (q.enclosed.sql ++ " AS " ++ name)) q.bindings), t) := by
  change (compile id .select >>= _).exec env s = _
  rw [exec_bind_ok hcompile, if_neg (Bool.eq_false_iff.1 hnull), exec_bind_ok exec_dialect, hname]
  rfl

/-- What stands for a statement is a fragment. -/
theorem subQuery_eq_ok {member shortName v : Value} (h : (subQuery member shortName).exec env s = (.ok v, t)) :
    ∃ content bindings, v = .raw content bindings := by
  unfold subQuery at h
  split at h
  · obtain ⟨q, _, -, h⟩ := exec_bind_eq_ok h
    split at h
    · cases h
      exact ⟨_, _, rfl⟩
    · obtain ⟨_, _, -, h⟩ := exec_bind_eq_ok h
      obtain ⟨_, _, -, h⟩ := exec_bind_eq_ok h
      cases h
      exact ⟨_, _, rfl⟩
  · cases h

end Declare

namespace Execute

/-- What is put together from a fragment: a new builder for it, which selects the expression. -/
def wrapped (id : Nat) (fragment expression : Value) : Act (List Row) := do
  let wrapper ← Declare.table id [fragment]
  let b ← Act.builder wrapper
  Act.modifyDraft wrapper (Draft.select b.lead b.overwriting.isTruthy [expression])
  selectRows wrapper

/-- A fragment as the only table gets a new builder. -/
theorem exec_table_raw (hb : s.builders[id]? = some b) (content : Value) (bindings : List Value) :
    (Declare.table id [.raw content bindings]).exec env s = (.ok s.builders.size,
      { s with
        drafts := s.drafts.push { tables := .declared [.raw content bindings] }
        builders := s.builders.push ⟨b.role, s.drafts.size, s.lead, .bool s.overwriting, .null, none⟩ }) := by
  let b' : Builder := ⟨b.role, s.drafts.size, s.lead, .bool s.overwriting, .null, none⟩
  let t : Session := { s with drafts := s.drafts.push {}, builders := s.builders.push b' }
  have hnew : (Declare.newQuery id).exec env s = (.ok s.builders.size, t) := exec_bind_ok (exec_builder_of_some hb)
  have hb' : t.builders[s.builders.size]? = some b' := Array.getElem?_push_size
  have hdraft : t.drafts[s.drafts.size]?.getD {} = {} := by rw [Array.getElem?_push_size, Option.getD_some]
  have hdeclare : (ExceptT.run (Draft.declareTables s.lead [.raw content bindings])).run {} =
      (.ok (), { tables := .declared [.raw content bindings] }) := by
    change (_, ({ tables := .declared [NameScope.tables.addPrefixOne s.lead (.raw content bindings)] } : Draft)) = _
    rw [NameScope.addPrefixOne_raw]
  have hset : (Declare.setTables s.builders.size [.raw content bindings]).exec env t = (.ok (), { t with
      drafts := t.drafts.modify s.drafts.size fun _ => { tables := .declared [.raw content bindings] } }) := by
    unfold Declare.setTables
    rw [exec_bind_ok (exec_builder_of_some hb')]
    unfold Act.drafting
    rw [exec_bind_ok (exec_draft hb'), hdraft, hdeclare]
    dsimp only
    rw [exec_bind_ok (exec_modifyDraft hb' _), exec_lift]
  unfold Declare.table
  rw [if_neg (show ¬ Draft.clearsTables [.raw content bindings] = true from Bool.false_ne_true), exec_bind_ok hnew,
    exec_bind_ok hset, exec_pure]
  change (_, ({ t with drafts := (s.drafts.push {}).modify s.drafts.size _ } : Session)) = _
  rw [modify_push_size]

theorem exec_wrapped (hb : s.builders[id]? = some b) (content content' : Value) (bindings bindings' : List Value) :
    (wrapped id (.raw content bindings) (.raw content' bindings')).exec env s =
      (selectRows s.builders.size).exec env
        (s.wrapping b.role (.raw content bindings) (.raw content' bindings')) := by
  unfold wrapped
  rw [exec_bind_ok (exec_table_raw hb content bindings)]
  let b' : Builder := ⟨b.role, s.drafts.size, s.lead, .bool s.overwriting, .null, none⟩
  let t : Session :=
    { s with
      drafts := s.drafts.push { tables := .declared [.raw content bindings] }
      builders := s.builders.push b' }
  have hb' : t.builders[s.builders.size]? = some b' := Array.getElem?_push_size
  have hselect : Draft.select s.lead (Value.bool s.overwriting).isTruthy [.raw content' bindings']
      { tables := .declared [.raw content bindings] } =
      .wrapping (.raw content bindings) (.raw content' bindings') := by
    have hfields : fieldsOf s.lead [.raw content' bindings'] =
        [.plain (NameScope.columns.addPrefixOne s.lead (.raw content' bindings'))] := rfl
    unfold Draft.select Draft.placed
    rw [hfields, NameScope.addPrefixOne_raw]
    split <;> rfl
  rw [exec_bind_ok (exec_builder_of_some hb'), exec_bind_ok (exec_modifyDraft hb' _)]
  change (selectRows s.builders.size).exec env
    { t with drafts := (s.drafts.push _).modify s.drafts.size _ } = _
  rw [modify_push_size, hselect]
  rfl

theorem exec_expressionRows (hb : s.builders[id]? = some b) (expression : Value) :
    (expressionRows id expression).exec env s =
      if (s.drafts[b.draft]?.getD {}).shapesRows then
        (Declare.subQuery (.builder b.role.kind id) (.text "count") >>= fun fragment =>
          wrapped id fragment expression).exec env s
      else (withProjection id [.plain expression] (selectRows id)).exec env s := by
  unfold expressionRows
  rw [exec_bind_ok (exec_draft hb)]
  split
  · rw [exec_bind_ok (exec_builderValue hb)]
    rfl
  · rfl

/-- The result of a function over the rows that hold it. -/
def summarize (rows : List Row) : Act Value := do
  match rows.head?.bind (Value.lookup? (.text "field")) with
  | none => pure (.int 0)
  | some .null => pure (.int 0)
  | some v => do Act.marked (← Act.lift (floatOf v))

theorem exec_aggregate (hb : s.builders[id]? = some b) (function : String) (field : Value) :
    (aggregate id function field).exec env s =
      match (s.drafts[b.draft]?.getD {}).summary (.ofEngine s.driver.engine) function field with
      | .ok expression => (expressionRows id expression >>= summarize).exec env s
      | .error fault => (.error fault, s) := by
  unfold aggregate Draft.summary
  rw [exec_bind_ok (exec_draft hb)]
  generalize s.drafts[b.draft]?.getD {} = d
  cases hwritten : field.written with
  | error fault =>
      dsimp only
      split
      · rfl
      · split
        · rfl
        · rfl
  | ok operand =>
      dsimp only
      split
      · rfl
      · split
        · rfl
        · cases hname : (Dialect.ofEngine s.driver.engine).identifier (.text "field") with
          | error fault =>
              rw [exec_bind_ok (exec_lift (.ok operand)), exec_bind_ok exec_dialect, hname]
              rfl
          | ok name =>
              rw [exec_bind_ok (exec_lift (.ok operand)), exec_bind_ok exec_dialect, hname]
              rfl

end Execute

end SqlBuilder
