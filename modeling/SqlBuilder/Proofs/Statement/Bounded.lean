import SqlBuilder.Statement.Select

/-!
Writing comes to an end by itself: whatever a statement is made of, its text is there or what is in the way of it is
named. Going too deep is nothing that writing ever fails for, so only scripts and unions can.
-/

namespace SqlBuilder

variable {α β : Type}

/-- The outcome is not that something went too deep. -/
def Bounded (outcome : Except Fault α) : Prop := outcome ≠ .error .tooDeep

namespace Bounded

variable {d : Dialect} {qualifier : Option String} {isBound isFirst : Bool}

theorem pure (x : α) : Bounded (Pure.pure x : Except Fault α) := nofun

theorem throw {fault : Fault} (h : fault ≠ .tooDeep) : Bounded (MonadExcept.throw fault : Except Fault α) :=
  fun heq => h (Except.error.inj heq)

/-- A fault is passed on, whatever was to come of the rest. -/
theorem fail {fault : Fault} (h : Bounded (.error fault : Except Fault α)) :
    Bounded (.error fault : Except Fault β) := fun heq => h (congrArg Except.error (Except.error.inj heq))

theorem bind {outcome : Except Fault α} {k : α → Except Fault β} (h : Bounded outcome) (hk : ∀ x, Bounded (k x)) :
    Bounded (outcome >>= k) := by
  cases outcome with
  | ok x => exact hk x
  | error fault => exact h.fail

theorem mapM {f : α → Except Fault β} (hf : ∀ x, Bounded (f x)) (xs : List α) : Bounded (xs.mapM f) := by
  induction xs with
  | nil => exact .pure _
  | cons x xs ih =>
      rw [List.mapM_cons]
      exact .bind (hf x) fun _ => .bind ih fun _ => .pure _

theorem ite {c : Prop} [Decidable c] {front back : Except Fault α} (hfront : Bounded front) (hback : Bounded back) :
    Bounded (if c then front else back) := by
  split
  · exact hfront
  · exact hback

/-! ### Values -/

theorem written (v : Value) : Bounded v.written := by
  unfold Value.written
  split
  · exact .pure _
  · exact .throw nofun

theorem identifier (v : Value) : Bounded (d.identifier v) :=
  .ite (.written v) (.ite (.throw nofun) (.bind (.written v) fun _ => .pure _))

theorem tableName (v : Value) : Bounded (d.tableName v) := .ite (.identifier v) (.written v)

theorem fragmentOf (v : Value) : Bounded (fragmentOf v) := .bind (.written v) fun _ => .pure _

theorem operandOf (v : Value) : Bounded (operandOf v) := .ite (.fragmentOf v) (.pure _)

theorem operandsOf (values : List Value) : Bounded (operandsOf values) := .bind (.mapM .operandOf _) fun _ => .pure _

theorem nameList (names : List Value) : Bounded (nameList d names) := .bind (.mapM .identifier _) fun _ => .pure _

/-! ### Conditions -/

theorem comparedKey (key : Value) : Bounded (comparedKey d qualifier key) := by
  refine .ite (.fragmentOf key) (.bind (.identifier key) fun _ => ?_)
  split
  · exact .pure _
  · exact .pure _

theorem comparedItems (left : Query) (operator : Value) (items : List Value) :
    Bounded (comparedItems left operator items) := by
  refine .ite ?_ (.bind (.operandsOf items) fun _ => .bind (.written operator) fun _ => .pure _)
  split
  · refine .bind (.operandOf _) fun _ => ?_
    split
    · exact .bind (.operandOf _) fun _ => .pure _
    · exact .throw nofun
  · exact .throw nofun

theorem comparison (key operator operand : Value) : Bounded (comparison d qualifier isBound key operator operand) := by
  refine .bind (.comparedKey key) fun left => ?_
  split
  · exact .comparedItems _ _ _
  · have hboth : ∀ right : Query, Bounded (operator.written >>= fun text =>
        Pure.pure (left ++ Query.plain (" " ++ text ++ " ") ++ right)) := fun _ =>
      .bind (.written operator) fun _ => .pure _
    dsimp only
    refine .ite (.pure _) (.ite (.bind (.fragmentOf operand) hboth) (.ite (.bind (.pure _) hboth) ?_))
    exact .ite (.bind (.pure _) hboth) (.bind (.identifier operand) fun _ => .bind (.pure _) hboth)

mutual

theorem pieces (qualifier : Option String) (isBound isFirst : Bool) :
    ∀ c : Condition, Bounded (c.pieces d qualifier isBound isFirst)
  | .test joint key operator operand => by
      rw [Condition.pieces]
      exact .bind (.comparison key operator operand) fun _ => .pure _
  | .group joint members => by
      rw [Condition.pieces]
      exact .bind (piecesOf none true true members) fun _ => .pure _
  | .columns joint names => by
      rw [Condition.pieces]
      exact .bind (.nameList names) fun _ => .pure _

theorem piecesOf (qualifier : Option String) (isBound isFirst : Bool) :
    ∀ conditions : List Condition, Bounded (Condition.piecesOf d qualifier isBound isFirst conditions)
  | [] => by
      rw [Condition.piecesOf]
      exact .pure _
  | c :: rest => by
      rw [Condition.piecesOf]
      refine .bind (pieces qualifier isBound isFirst c) fun _ => ?_
      exact .bind (piecesOf qualifier isBound false rest) fun _ => .pure _

end

theorem expression (conditions : List Condition) : Bounded (Condition.expression d qualifier isBound conditions) :=
  .bind (.piecesOf _ _ _ _) fun _ => .pure _

theorem clause (keyword : String) (conditions : List Condition) :
    Bounded (Condition.clause d qualifier keyword conditions) :=
  .ite (.pure _) (.bind (.expression _) fun _ => .pure _)

/-! ### Clauses -/

theorem field (f : Field) : Bounded (f.render d) := by
  cases f with
  | plain name => exact .bind (.identifier name) fun _ => .pure _
  | aliased name shortName => exact .bind (.identifier name) fun _ => .bind (.identifier shortName) fun _ => .pure _

theorem fields (fs : List Field) : Bounded (Field.renderAll d fs) := .bind (.mapM .field _) fun _ => .pure _

theorem unlessCallable (table : Value) {clause : Except Fault Query} (h : Bounded clause) :
    Bounded (unlessCallable table clause) := .ite (.pure _) h

theorem requireTable (table : Value) : Bounded (requireTable table) := .ite (.throw nofun) (.pure _)

theorem joined (table : Value) : Bounded (Join.tableClause d table) := by
  unfold Join.tableClause
  split
  · exact .bind (.identifier _) fun _ => .bind (.identifier _) fun _ => .pure _
  · exact .throw nofun
  · exact .bind (.identifier table) fun _ => .pure _

theorem conditionClause (conditions : Option (List Condition)) : Bounded (Join.conditionClause d conditions) := by
  cases conditions with
  | none => exact .pure _
  | some conditions => exact .expression _

theorem join (j : Join) : Bounded (j.render d) := by
  refine .bind (.unlessCallable _ (.joined _)) fun _ => .bind (.conditionClause _) fun _ => ?_
  exact .bind (.requireTable _) fun _ => .pure _

theorem joins (js : List Join) : Bounded (Join.clause d js) := .bind (.mapM .join _) fun _ => .pure _

theorem orders (terms : List OrderTerm) : Bounded (OrderTerm.clause d terms) :=
  .bind (.mapM (fun _ => .bind (.identifier _) fun _ => .pure _) _) fun _ => .pure _

theorem groups (fs : List Value) : Bounded (groupClause d fs) := .bind (.fields _) fun _ => .pure _

variable {aliases : List (Value × String)}

theorem aliasOf? (table : Value) : Bounded (aliasOf? aliases table) := .ite (.pure _) (.ite (.pure _) (.throw nofun))

theorem table (table : Value) : Bounded (tableClause d aliases table) := by
  refine .ite (.fragmentOf table) (.bind (.aliasOf? table) fun shortName => ?_)
  cases shortName with
  | none => exact .bind (.tableName table) fun _ => .pure _
  | some shortName => exact .bind (.tableName table) fun _ => .bind (.tableName _) fun _ => .pure _

theorem qualifierOf (tables : List Value) : Bounded (qualifierOf aliases tables) := by
  unfold SqlBuilder.qualifierOf
  split
  · exact .pure _
  · exact .aliasOf? _

theorem counted (before : String) (number : Option Value) (after : String) :
    Bounded (Clauses.counted before number after) := by
  cases number with
  | none => exact .pure _
  | some v => exact .bind (.written v) fun _ => .pure _

variable (c : Clauses)

theorem distinct : Bounded (c.distinctClause d) :=
  .ite (.pure _) (.ite (.bind (.fields _) fun _ => .pure _) (.throw nofun))

theorem top : Bounded (c.top d) := by
  unfold Clauses.top
  split
  · exact .pure _
  · exact .counted _ _ _

theorem pages : Bounded (c.pages d) := by
  unfold Clauses.pages
  split
  · exact .bind (.counted _ _ _) fun _ => .bind (.counted _ _ _) fun _ => .pure _
  · exact .bind (.counted _ _ _) fun _ => .bind (.counted _ _ _) fun _ => .pure _

theorem lock : Bounded (c.lock d) := .ite (.counted _ _ _) (.pure _)

theorem select : Bounded (c.select d) := by
  refine .bind (.distinct c) fun _ => .bind (.mapM (fun _ => .unlessCallable _ (.table _)) _) fun _ => ?_
  refine .bind (.qualifierOf _) fun _ => .bind (.joins _) fun _ => .bind (.clause _ _) fun _ => ?_
  refine .bind (.groups _) fun _ => .bind (.clause _ _) fun _ => .bind (.orders _) fun _ => ?_
  refine .bind (.fields _) fun _ => ?_
  have hends : ∀ (_ : PUnit) (k : String → List Query → String → Query), Bounded (c.top d >>= fun top =>
      c.pages d >>= fun pages => c.lock d >>= fun lock => Pure.pure (k top pages lock)) := fun _ _ =>
    .bind (.top c) fun _ => .bind (.pages c) fun _ => .bind (.lock c) fun _ => .pure _
  exact .ite (.bind (.throw nofun) fun x => hends x _) (hends ⟨⟩ _)

mutual

theorem tree : ∀ t : SelectTree, Bounded (t.render d)
  | .mk own members => by
      rw [SelectTree.render]
      exact .bind (.select own) fun _ => .ite (.pure _) (.bind (trees members) fun _ => .pure _)

theorem trees : ∀ members : List (UnionKind × SelectTree), Bounded (SelectTree.renderMembers d members)
  | [] => by
      rw [SelectTree.renderMembers]
      exact .pure _
  | (kind, member) :: rest => by
      rw [SelectTree.renderMembers]
      exact .bind (tree member) fun _ => .bind (trees rest) fun _ => .pure _

end

end Bounded

end SqlBuilder
