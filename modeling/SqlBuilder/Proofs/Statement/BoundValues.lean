import SqlBuilder.Proofs.Statement.Refit

/-!
The values of a statement in the order of their places in its text: the values that conditions compare with,
the new values of columns, and the values of the fragments of SQL wherever those are taken over.
-/

namespace SqlBuilder

/-- The values that come in with an operand: those of a fragment of SQL, and anything else itself. -/
def Value.placed (v : Value) : List Value := if v.isRaw then v.fragmentBindings else [v]

/-- The values of the operand of a comparison. `BETWEEN` takes two items of a sequence, and a fragment of SQL
without an operator passes over its operand. -/
def operandValues (isBound : Bool) (key operator operand : Value) : List Value :=
  match operand.items? with
  | some items => if operator.same (.text "BETWEEN") then (items.take 2).flatMap Value.placed
    else items.flatMap Value.placed
  | none =>
    if operand.isRaw then operand.fragmentBindings
    else if isBound && !(key.isRaw && operator.isNull) then [operand]
    else []

mutual

def Condition.boundValues (isBound : Bool) : Condition → List Value
  | .test _ key operator operand => key.fragmentBindings ++ operandValues isBound key operator operand
  | .group _ members => Condition.boundValuesOf true members
  | .columns _ _ => []

def Condition.boundValuesOf (isBound : Bool) : List Condition → List Value
  | [] => []
  | c :: rest => Condition.boundValues isBound c ++ Condition.boundValuesOf isBound rest

end

def Join.boundValues (j : Join) : List Value :=
  j.table.fragmentBindings ++ (j.conditions.map (Condition.boundValuesOf false)).getD []

def cellValues (entries : List (Value × Value)) : List Value := entries.flatMap fun cell => cell.2.placed

namespace Clauses

/-- The values of the clauses that follow the tables of a statement, but for those of `HAVING`. -/
def trailingValues (c : Clauses) (havings : List Condition) : List Value :=
  Condition.boundValuesOf true c.wheres ++ c.groupBys.flatMap Value.fragmentBindings ++
    Condition.boundValuesOf true havings ++ c.orderBys.flatMap fun term => term.field.fragmentBindings

def selectValues (c : Clauses) : List Value :=
  c.distinctOn.flatMap Field.bindings ++ c.projection.flatMap Field.bindings ++
    c.tables.flatMap Value.fragmentBindings ++ c.joins.flatMap Join.boundValues ++ c.trailingValues c.havings

end Clauses

mutual

/-- The values of the projection and of everything it is united with. -/
def SelectTree.boundValues : SelectTree → List Value
  | .mk clauses members => clauses.selectValues ++ SelectTree.boundValuesOf members

def SelectTree.boundValuesOf : List (UnionKind × SelectTree) → List Value
  | [] => []
  | (_, member) :: rest => SelectTree.boundValues member ++ SelectTree.boundValuesOf rest

end

/-- The values of the statement in the order of their places. -/
def StatementTree.boundValues : StatementTree → List Value
  | select tree => tree.boundValues
  | insert clauses _ (.map entries) => cellValues entries ++ (clauses.onDuplicate.map cellValues).getD []
  | update clauses (.map entries) =>
    clauses.joins.flatMap Join.boundValues ++ cellValues entries ++ clauses.trailingValues []
  | insert _ _ _ => []
  | update _ _ => []
  | delete clauses _ => clauses.joins.flatMap Join.boundValues ++ clauses.trailingValues []
  | conditions isBound members => Condition.boundValuesOf isBound members

end SqlBuilder
