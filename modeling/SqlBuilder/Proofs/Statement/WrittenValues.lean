import SqlBuilder.Proofs.Statement.BoundValues
import Mathlib.Data.List.Flatten

/-!
The values of a statement together with its spare ones. Where a statement takes over the text of a fragment of SQL
and not its values, these are spare: the text has places for them, and nothing is bound there. That is so for the
columns of `USING`, for a pair that is joined, for the table and the columns of a change, and for the keys of a
mapping. Without the spare values what is left are the values that are bound.
-/

namespace SqlBuilder

variable (spare : Bool)

/-- The values of a fragment of SQL of which only the text is written, if the spare values count. -/
def Value.spareBindings (v : Value) : List Value := if spare then v.fragmentBindings else []

mutual

def Condition.values (isBound : Bool) : Condition → List Value
  | .test _ key operator operand => key.fragmentBindings ++ operandValues isBound key operator operand
  | .group _ members => Condition.valuesOf true members
  | .columns _ names => names.flatMap (Value.spareBindings spare)

def Condition.valuesOf (isBound : Bool) : List Condition → List Value
  | [] => []
  | c :: rest => Condition.values isBound c ++ Condition.valuesOf isBound rest

end

def joinedValues : Value → List Value
  | .tuple names => names.flatMap (Value.spareBindings spare)
  | v => v.fragmentBindings

def Join.values (j : Join) : List Value :=
  joinedValues spare j.table ++ (j.conditions.map (Condition.valuesOf spare false)).getD []

def assignedValues (entries : List (Value × Value)) : List Value :=
  entries.flatMap fun cell => cell.1.spareBindings spare ++ cell.2.placed

namespace Clauses

/-- The values of the clauses that follow the tables of a statement, but for those of `HAVING`. -/
def closingValues (c : Clauses) (havings : List Condition) : List Value :=
  Condition.valuesOf spare true c.wheres ++ c.groupBys.flatMap Value.fragmentBindings ++
    Condition.valuesOf spare true havings ++ c.orderBys.flatMap fun term => term.field.fragmentBindings

def projectionValues (c : Clauses) : List Value :=
  c.distinctOn.flatMap Field.bindings ++ c.projection.flatMap Field.bindings ++
    c.tables.flatMap Value.fragmentBindings ++ c.joins.flatMap (Join.values spare) ++ c.closingValues spare c.havings

def targetValues (c : Clauses) : List Value := (c.tables.getLast?.map (Value.spareBindings spare)).getD []

end Clauses

mutual

/-- The values of the projection and of everything it is united with. -/
def SelectTree.values : SelectTree → List Value
  | .mk clauses members => clauses.projectionValues spare ++ SelectTree.valuesOf members

def SelectTree.valuesOf : List (UnionKind × SelectTree) → List Value
  | [] => []
  | (_, member) :: rest => SelectTree.values member ++ SelectTree.valuesOf rest

end

/-- The values of the statement in the order of their places. -/
def StatementTree.values : StatementTree → List Value
  | select tree => tree.values spare
  | insert clauses _ (.map entries) =>
    clauses.targetValues spare ++ (entries.map (·.1)).flatMap (Value.spareBindings spare) ++ cellValues entries ++
      (clauses.onDuplicate.map (assignedValues spare)).getD []
  | update clauses (.map entries) =>
    clauses.targetValues spare ++ clauses.joins.flatMap (Join.values spare) ++ assignedValues spare entries ++
      clauses.closingValues spare []
  | insert _ _ _ => []
  | update _ _ => []
  | delete clauses columns =>
    (columns.elements?.getD []).flatMap (Value.spareBindings spare) ++ clauses.targetValues spare ++
      clauses.joins.flatMap (Join.values spare) ++ clauses.closingValues spare []
  | conditions isBound members => Condition.valuesOf spare isBound members

/-! ### Bound values and all values -/

theorem Value.spareBindings_of_not_raw {v : Value} (h : v.isRaw = false) : v.spareBindings spare = [] := by
  rw [spareBindings, Value.fragmentBindings_of_not_raw h, ite_self]

theorem flatMap_spareBindings_false (names : List Value) : names.flatMap (Value.spareBindings false) = [] :=
  List.flatMap_eq_nil_iff.2 fun _ _ => rfl

mutual

theorem Condition.values_false (isBound : Bool) :
    ∀ c : Condition, c.values false isBound = c.boundValues isBound
  | .test _ _ _ _ => rfl
  | .group _ members => Condition.valuesOf_false true members
  | .columns _ names => flatMap_spareBindings_false names

theorem Condition.valuesOf_false (isBound : Bool) :
    ∀ conditions : List Condition,
      Condition.valuesOf false isBound conditions = Condition.boundValuesOf isBound conditions
  | [] => rfl
  | c :: rest => by
      rw [Condition.valuesOf, Condition.boundValuesOf, Condition.values_false isBound c,
        Condition.valuesOf_false isBound rest]

end

theorem Join.values_false : Join.values false = Join.boundValues := by
  funext j
  have htable : joinedValues false j.table = j.table.fragmentBindings := by
    cases j.table with
    | tuple names => exact flatMap_spareBindings_false names
    | _ => rfl
  rw [Join.values, Join.boundValues, htable, funext (Condition.valuesOf_false false)]

theorem assignedValues_false : assignedValues false = cellValues := rfl

namespace Clauses

theorem closingValues_false (c : Clauses) (havings : List Condition) :
    c.closingValues false havings = c.trailingValues havings := by
  simp only [closingValues, trailingValues, Condition.valuesOf_false]

theorem projectionValues_false (c : Clauses) : c.projectionValues false = c.selectValues := by
  rw [projectionValues, selectValues, Join.values_false, closingValues_false]

theorem targetValues_false (c : Clauses) : c.targetValues false = [] := by
  unfold targetValues
  cases c.tables.getLast? with
  | none => rfl
  | some table => rfl

end Clauses

mutual

theorem SelectTree.values_false : ∀ tree : SelectTree, tree.values false = tree.boundValues
  | .mk clauses members => by
      rw [SelectTree.values, SelectTree.boundValues, clauses.projectionValues_false,
        SelectTree.valuesOf_false members]

theorem SelectTree.valuesOf_false : ∀ members : List (UnionKind × SelectTree),
    SelectTree.valuesOf false members = SelectTree.boundValuesOf members
  | [] => rfl
  | (_, member) :: rest => by
      rw [SelectTree.valuesOf, SelectTree.boundValuesOf, SelectTree.values_false member,
        SelectTree.valuesOf_false rest]

end

/-- Without the spare values there are those that are bound. -/
theorem StatementTree.values_false (t : StatementTree) : t.values false = t.boundValues := by
  cases t with
  | select tree => exact tree.values_false
  | insert clauses verb data =>
      cases data with
      | map entries =>
          rw [values, boundValues, clauses.targetValues_false, flatMap_spareBindings_false, assignedValues_false]
          rfl
      | _ => rfl
  | update clauses data =>
      cases data with
      | map entries =>
          rw [values, boundValues, clauses.targetValues_false, Join.values_false, assignedValues_false,
            clauses.closingValues_false]
          rfl
      | _ => rfl
  | delete clauses columns =>
      rw [values, boundValues, clauses.targetValues_false, flatMap_spareBindings_false, Join.values_false,
        clauses.closingValues_false]
      rfl
  | conditions isBound members => exact Condition.valuesOf_false isBound members

/-! ### Bound values among all values -/

theorem sublist_flatMap_spareBindings (names : List Value) :
    (names.flatMap (Value.spareBindings false)).Sublist (names.flatMap (Value.spareBindings true)) :=
  .flatMap_right names fun _ _ => List.nil_sublist _

mutual

theorem Condition.values_sublist (isBound : Bool) :
    ∀ c : Condition, (c.values false isBound).Sublist (c.values true isBound)
  | .test _ _ _ _ => .refl _
  | .group _ members => Condition.valuesOf_sublist true members
  | .columns _ names => sublist_flatMap_spareBindings names

theorem Condition.valuesOf_sublist (isBound : Bool) : ∀ conditions : List Condition,
    (Condition.valuesOf false isBound conditions).Sublist (Condition.valuesOf true isBound conditions)
  | [] => .slnil
  | c :: rest => (Condition.values_sublist isBound c).append (Condition.valuesOf_sublist isBound rest)

end

theorem Join.values_sublist (j : Join) : (j.values false).Sublist (j.values true) := by
  have htable : (joinedValues false j.table).Sublist (joinedValues true j.table) := by
    cases j.table with
    | tuple names => exact sublist_flatMap_spareBindings names
    | _ => exact .refl _
  refine htable.append ?_
  cases j.conditions with
  | none => exact .slnil
  | some conditions => exact Condition.valuesOf_sublist false conditions

theorem assignedValues_sublist (entries : List (Value × Value)) :
    (assignedValues false entries).Sublist (assignedValues true entries) :=
  .flatMap_right entries fun _ _ => (List.nil_sublist _).append (.refl _)

namespace Clauses

variable (c : Clauses)

theorem closingValues_sublist (havings : List Condition) :
    (c.closingValues false havings).Sublist (c.closingValues true havings) :=
  (((Condition.valuesOf_sublist true c.wheres).append (.refl _)).append
    (Condition.valuesOf_sublist true havings)).append (.refl _)

theorem joins_sublist :
    (c.joins.flatMap (Join.values false)).Sublist (c.joins.flatMap (Join.values true)) :=
  .flatMap_right c.joins fun j _ => j.values_sublist

theorem targetValues_sublist : (c.targetValues false).Sublist (c.targetValues true) := by
  rw [c.targetValues_false]
  exact List.nil_sublist _

end Clauses

mutual

theorem SelectTree.values_sublist : ∀ tree : SelectTree, (tree.values false).Sublist (tree.values true)
  | .mk clauses members =>
    ((List.Sublist.append (.refl _) clauses.joins_sublist).append (clauses.closingValues_sublist _)).append
      (SelectTree.valuesOf_sublist members)

theorem SelectTree.valuesOf_sublist : ∀ members : List (UnionKind × SelectTree),
    (SelectTree.valuesOf false members).Sublist (SelectTree.valuesOf true members)
  | [] => .slnil
  | (_, member) :: rest => (SelectTree.values_sublist member).append (SelectTree.valuesOf_sublist rest)

end

/-- The bound values stand among all values in the same order. -/
theorem StatementTree.boundValues_sublist (t : StatementTree) : t.boundValues.Sublist (t.values true) := by
  rw [← t.values_false]
  cases t with
  | select tree => exact tree.values_sublist
  | insert clauses verb data =>
      cases data with
      | map entries =>
          refine ((clauses.targetValues_sublist.append (sublist_flatMap_spareBindings _)).append (.refl _)).append ?_
          cases clauses.onDuplicate with
          | none => exact .slnil
          | some cells => exact assignedValues_sublist cells
      | _ => exact .slnil
  | update clauses data =>
      cases data with
      | map entries =>
          exact ((clauses.targetValues_sublist.append clauses.joins_sublist).append
            (assignedValues_sublist entries)).append (clauses.closingValues_sublist [])
      | _ => exact .slnil
  | delete clauses columns =>
      exact (((sublist_flatMap_spareBindings _).append clauses.targetValues_sublist).append
        clauses.joins_sublist).append (clauses.closingValues_sublist [])
  | conditions isBound members => exact Condition.valuesOf_sublist isBound members

end SqlBuilder
