import SqlBuilder.Proofs.Statement.Limit
import SqlBuilder.Proofs.Statement.Qualifying

/-!
Text that stands in a query. What a clause names stands in it as an identifier, and what stands in a clause stands in
the statement.
-/

namespace SqlBuilder

def Query.Shows (q : Query) (s : String) : Prop := s.toList <:+: q.sql.toList

theorem Text.infix_joined {glue s : String} {ss : List String} (h : s ∈ ss) :
    s.toList <:+: (Text.joined glue ss).toList := by
  induction ss with
  | nil => cases h
  | cons t rest ih =>
      cases rest with
      | nil => exact List.mem_singleton.1 h ▸ List.infix_refl _
      | cons next rest =>
          change s.toList <:+: (t ++ glue ++ Text.joined glue (next :: rest)).toList
          rw [String.toList_append, String.toList_append]
          rcases List.mem_cons.1 h with rfl | h
          · rw [List.append_assoc]
            exact (List.prefix_append _ _).isInfix
          · exact List.infix_append_of_infix_right (ih h)

/-- A text without blanks around it is not touched when those around a longer one are taken away. -/
theorem Text.infix_stripChars {cs ds : List Char} (hcs : Text.IsSolid cs) (h : cs <:+: ds) :
    cs <:+: Text.stripChars ds := by
  have hleft : ∀ {cs ds : List Char}, Text.Opens cs → cs <:+: ds → cs <:+: Text.stripLeftChars ds := by
    rintro cs ds hcs ⟨front, back, rfl⟩
    have hkept := Text.stripLeftChars_eq_self hcs back
    unfold Text.stripLeftChars at hkept ⊢
    rw [List.append_assoc, List.dropWhile_append, hkept]
    split
    · exact (List.prefix_append cs back).isInfix
    · rw [← List.append_assoc]
      exact List.infix_append _ cs back
  rw [Text.stripChars, ← List.reverse_infix, List.reverse_reverse]
  refine hleft hcs.2 (List.reverse_infix.2 (hleft hcs.1 h))

namespace Query.Shows

variable {p q : Query} {qs : List Query} {s t : String}

theorem self (s : String) : (plain s).Shows s := List.infix_refl _

theorem append_left (h : p.Shows s) (q : Query) : (p ++ q).Shows s := by
  unfold Shows
  rw [sql_append, String.toList_append]
  exact List.IsInfix.trans h (List.prefix_append _ _).isInfix

theorem append_right (p : Query) (h : q.Shows s) : (p ++ q).Shows s := by
  unfold Shows
  rw [sql_append, String.toList_append]
  exact List.IsInfix.trans h (List.suffix_append _ _).isInfix

theorem named (front name : String) : (plain (front ++ " AS " ++ name)).Shows ("AS " ++ name) := by
  have hsplit : front ++ " AS " ++ name = front ++ " " ++ ("AS " ++ name) := by
    have hword : " AS " = " " ++ "AS " := rfl
    rw [hword]
    simp only [String.append_assoc]
  rw [hsplit, plain_append]
  exact append_right _ (self _)

/-- A text with more of it behind. -/
theorem leading (s glue behind : String) (values : List Value) : Query.Shows ⟨s ++ glue ++ behind, values⟩ s := by
  unfold Shows
  rw [String.toList_append, String.toList_append, List.append_assoc]
  exact (List.prefix_append _ _).isInfix

theorem enclosed (h : q.Shows s) : q.enclosed.Shows s := by
  rw [Query.enclosed_eq]
  exact (append_right (plain "(") h).append_left (plain ")")

theorem joined {glue : String} (hq : q ∈ qs) (h : q.Shows s) : (Query.joined glue qs).Shows s :=
  List.IsInfix.trans h (Text.infix_joined (List.mem_map_of_mem hq))

/-- A text without blanks around it stands in a statement if it stands in one of its clauses. -/
theorem clauses (hs : Text.Solid s) (hq : q ∈ qs) (h : q.Shows s) : (Query.clauses qs).Shows s := by
  have hstrip : s.toList <:+: (Text.strip q.sql).toList := by
    rw [Text.strip, String.toList_ofList]
    exact Text.infix_stripChars hs h
  have hne : Text.strip q.sql ≠ "" := by
    intro hempty
    rw [hempty] at hstrip
    exact hs.ne_empty (String.toList_eq_nil_iff.1 (List.eq_nil_of_infix_nil hstrip))
  have hword : Text.strip q.sql ∈ Text.words (qs.map (·.sql)) :=
    List.mem_filter.2 ⟨List.mem_map_of_mem (List.mem_map_of_mem hq), decide_eq_true hne⟩
  have hsql : (Query.clauses qs).sql = Text.joined " " (Text.words (qs.map (·.sql))) :=
    Text.concatenate_eq_joined _
  unfold Shows
  rw [hsql]
  exact hstrip.trans (Text.infix_joined hword)

end Query.Shows

/-! ### Clauses -/

theorem exists_mem_of_mapM {α β : Type} {f : α → Except Fault β} {xs : List α} {ys : List β}
    (h : xs.mapM f = .ok ys) {x : α} (hx : x ∈ xs) : ∃ y ∈ ys, f x = .ok y := by
  induction xs generalizing ys with
  | nil => cases hx
  | cons x' xs ih =>
      rw [List.mapM_cons] at h
      obtain ⟨y, hy, h⟩ := exists_ok_of_bind h
      obtain ⟨ys', hys, h⟩ := exists_ok_of_bind h
      cases h
      rcases List.mem_cons.1 hx with rfl | hx
      · exact ⟨y, List.mem_cons_self, hy⟩
      · obtain ⟨y', hy', hxy⟩ := ih hys hx
        exact ⟨y', List.mem_cons_of_mem y hy', hxy⟩

def Dialect.quoted (d : Dialect) (n : String) : String := .ofList (d.quoteName n.toList)

theorem Dialect.toList_quoted (d : Dialect) (n : String) : (d.quoted n).toList = d.quoteName n.toList :=
  String.toList_ofList

section Clauses

variable {e : Engine} {q : Query} {n : String}

theorem Field.shows_renderAll {fields : List Field} (h : Field.renderAll (.ofEngine e) fields = .ok q) {field : Field}
    (hfield : field ∈ fields) (hn : field.name = .text n) : q.Shows ((Dialect.ofEngine e).quoted n) := by
  obtain ⟨parts, hparts, h⟩ := exists_ok_of_bind h
  cases h
  obtain ⟨part, hpart, hrender⟩ := exists_mem_of_mapM hparts hfield
  refine .joined hpart ?_
  cases field with
  | plain =>
      cases hn
      cases hrender
      exact .self _
  | aliased _ shortName =>
      cases hn
      obtain ⟨_, htext, hrender⟩ := exists_ok_of_bind hrender
      cases htext
      obtain ⟨shown, -, hrender⟩ := exists_ok_of_bind hrender
      cases hrender
      exact .leading ..

theorem OrderTerm.shows_clause {terms : List OrderTerm} (h : OrderTerm.clause (.ofEngine e) terms = .ok q)
    {term : OrderTerm} (hterm : term ∈ terms) (hn : term.field = .text n) :
    q.Shows ((Dialect.ofEngine e).quoted n) := by
  obtain ⟨parts, hparts, h⟩ := exists_ok_of_bind h
  obtain ⟨part, hpart, hrender⟩ := exists_mem_of_mapM hparts hterm
  have hshows : part.Shows ((Dialect.ofEngine e).quoted n) := by
    unfold render at hrender
    rw [hn] at hrender
    cases hrender
    exact .leading ..
  cases h
  cases terms with
  | nil => cases hterm
  | cons => exact (Query.Shows.joined hpart hshows).append_right _

theorem shows_groupClause {names : List Value} (h : groupClause (.ofEngine e) names = .ok q) (hn : .text n ∈ names) :
    q.Shows ((Dialect.ofEngine e).quoted n) := by
  obtain ⟨columns, hcolumns, h⟩ := exists_ok_of_bind h
  cases h
  cases names with
  | nil => cases hn
  | cons => exact (Field.shows_renderAll hcolumns (List.mem_map_of_mem hn) rfl).append_right _

/-! ### Conditions -/

theorem shows_comparedItems {left : Query} {operator : Value} {items : List Value} {s : String}
    (h : comparedItems left operator items = .ok q) (hs : left.Shows s) : q.Shows s := by
  unfold comparedItems at h
  split at h
  · match items with
    | [] => cases h
    | [low] =>
        obtain ⟨_, -, h⟩ := exists_ok_of_bind h
        cases h
    | low :: high :: rest =>
        obtain ⟨p, -, h⟩ := exists_ok_of_bind h
        obtain ⟨p', -, h⟩ := exists_ok_of_bind h
        cases h
        exact (((hs.append_left _).append_left _).append_left _).append_left _
  · obtain ⟨operands, -, h⟩ := exists_ok_of_bind h
    obtain ⟨written, -, h⟩ := exists_ok_of_bind h
    cases h
    exact (hs.append_left _).append_left _

/-- What stands on the left side of a comparison stands in it. -/
theorem exists_left {d : Dialect} {qualifier : Option String} {isBound : Bool} {key operator operand : Value}
    (h : comparison d qualifier isBound key operator operand = .ok q) :
    ∃ left, comparedKey d qualifier key = .ok left ∧ ∀ s, left.Shows s → q.Shows s := by
  cases hitems : operand.items? with
  | some items =>
      rw [comparison_of_items? hitems] at h
      obtain ⟨left, hleft, h⟩ := exists_ok_of_bind h
      exact ⟨left, hleft, fun s hs => shows_comparedItems h hs⟩
  | none =>
      rw [comparison_of_items?_none hitems] at h
      obtain ⟨left, hleft, h⟩ := exists_ok_of_bind h
      refine ⟨left, hleft, fun s hs => ?_⟩
      split at h
      · cases h
        exact hs
      · obtain ⟨right, -, h⟩ := exists_ok_of_bind h
        obtain ⟨written, -, h⟩ := exists_ok_of_bind h
        cases h
        exact (hs.append_left _).append_left _

theorem shows_comparison {qualifier : Option String} {isBound : Bool} {operator operand : Value}
    (hdot : '.' ∈ n.toList) (h : comparison (.ofEngine e) qualifier isBound (.text n) operator operand = .ok q) :
    q.Shows ((Dialect.ofEngine e).quoted n) := by
  obtain ⟨left, hleft, hshows⟩ := exists_left h
  refine hshows _ ?_
  have hcontains : ((Dialect.ofEngine e).quoted n).toList.contains '.' = true := by
    rw [Dialect.toList_quoted, Dialect.contains_dot_quoteName_eq]
    exact List.contains_iff_mem.2 hdot
  cases qualifier with
  | none =>
      cases hleft
      exact .self _
  | some qualifier =>
      change Except.ok (Query.plain (if ((Dialect.ofEngine e).quoted n).toList.contains '.' then _ else _)) = _ at hleft
      rw [if_pos hcontains] at hleft
      cases hleft
      exact .self _

/-- In the conditions of a join the right side is a column as well. -/
theorem shows_comparison_right {qualifier : Option String} {key operator : Value}
    (h : comparison (.ofEngine e) qualifier false key operator (.text n) = .ok q) :
    q.Shows ((Dialect.ofEngine e).quoted n) := by
  rw [comparison_of_items?_none rfl] at h
  obtain ⟨left, -, h⟩ := exists_ok_of_bind h
  obtain ⟨right, hright, h⟩ := exists_ok_of_bind h
  cases hright
  obtain ⟨written, -, h⟩ := exists_ok_of_bind h
  cases h
  exact .append_right _ (.self _)

namespace Condition

variable {d : Dialect} {qualifier : Option String} {isBound isFirst : Bool} {conditions : List Condition} {s : String}

/-- What stands in a comparison stands among the pieces of all conditions. -/
theorem exists_of_test {qs : List Query} {joint : Joint} {key operator operand : Value}
    (h : piecesOf d qualifier isBound isFirst conditions = .ok qs)
    (hc : .test joint key operator operand ∈ conditions) :
    ∃ body ∈ qs, comparison d qualifier isBound key operator operand = .ok body := by
  induction conditions generalizing isFirst qs with
  | nil => cases hc
  | cons c rest ih =>
      rw [piecesOf] at h
      obtain ⟨front, hfront, h⟩ := exists_ok_of_bind h
      obtain ⟨back, hback, h⟩ := exists_ok_of_bind h
      cases h
      rcases List.mem_cons.1 hc with rfl | hc
      · rw [pieces] at hfront
        obtain ⟨body, hbody, hfront⟩ := exists_ok_of_bind hfront
        cases hfront
        exact ⟨body, List.mem_append_left _ (List.mem_append_right _ (List.mem_singleton_self _)), hbody⟩
      · obtain ⟨body, hbody, hcomparison⟩ := ih hback hc
        exact ⟨body, List.mem_append_right _ hbody, hcomparison⟩

theorem exists_of_expression {joint : Joint} {key operator operand : Value}
    (h : expression d qualifier isBound conditions = .ok q) (hc : .test joint key operator operand ∈ conditions) :
    ∃ body, comparison d qualifier isBound key operator operand = .ok body ∧ ∀ s, body.Shows s → q.Shows s := by
  obtain ⟨qs, hqs, h⟩ := exists_ok_of_bind h
  cases h
  obtain ⟨body, hbody, hcomparison⟩ := exists_of_test hqs hc
  exact ⟨body, hcomparison, fun s hs => hs.joined hbody⟩

theorem shows_clause {keyword : String} {joint : Joint} {operator operand : Value} (hdot : '.' ∈ n.toList)
    (h : clause (.ofEngine e) qualifier keyword conditions = .ok q)
    (hc : .test joint (.text n) operator operand ∈ conditions) : q.Shows ((Dialect.ofEngine e).quoted n) := by
  unfold clause at h
  cases conditions with
  | nil => cases hc
  | cons c rest =>
      obtain ⟨p, hp, h⟩ := exists_ok_of_bind h
      cases h
      obtain ⟨body, hbody, hshows⟩ := exists_of_expression hp hc
      exact (hshows _ (shows_comparison hdot hbody)).append_right _

end Condition

/-! ### Tables and joins -/

theorem shows_tableClause {aliases : List (Value × String)} {table a : String}
    (h : tableClause (.ofEngine e) aliases (.text table) = .ok q)
    (ha : Value.lookup? (.text table) aliases = some a) :
    ∃ name, (Dialect.ofEngine e).tableName (.text (Text.lower a)) = .ok name ∧ q.Shows ("AS " ++ name) := by
  have hraw : (Value.text table).isRaw = false := rfl
  have halias : aliasOf? aliases (.text table) = .ok (some a) := congrArg Except.ok ha
  unfold tableClause at h
  rw [hraw, if_neg Bool.false_ne_true, halias] at h
  obtain ⟨_, hsome, h⟩ := exists_ok_of_bind h
  cases hsome
  obtain ⟨front, -, h⟩ := exists_ok_of_bind h
  obtain ⟨name, hname, h⟩ := exists_ok_of_bind h
  cases h
  exact ⟨name, hname, .named front name⟩

namespace Join

variable {j : Join} {joins : List Join}

/-- What stands in the table or in the conditions of a join stands in the joins. -/
theorem shows_clause {s : String} (hs : Text.Solid s) (h : clause (.ofEngine e) joins = .ok q) (hj : j ∈ joins) :
    ∃ table conditions, unlessCallable j.table (tableClause (.ofEngine e) j.table) = .ok table ∧
      conditionClause (.ofEngine e) j.conditions = .ok conditions ∧
      (table.Shows s ∨ conditions.Shows s → q.Shows s) := by
  obtain ⟨parts, hparts, h⟩ := exists_ok_of_bind h
  cases h
  obtain ⟨part, hpart, hrender⟩ := exists_mem_of_mapM hparts hj
  obtain ⟨table, htable, hrender⟩ := exists_ok_of_bind hrender
  obtain ⟨conditions, hconditions, hrender⟩ := exists_ok_of_bind hrender
  obtain ⟨_, -, hrender⟩ := exists_ok_of_bind hrender
  obtain rfl := eq_of_pure_eq_ok hrender
  refine ⟨table, conditions, htable, hconditions, fun hshows => ?_⟩
  refine Query.Shows.clauses hs hpart ?_
  rcases hshows with hshows | hshows
  · exact Query.Shows.clauses hs (List.mem_cons_of_mem _ (List.mem_cons_of_mem _ List.mem_cons_self)) hshows
  · exact Query.Shows.clauses hs (List.mem_cons_of_mem _ (List.mem_cons_of_mem _ (List.mem_cons_of_mem _
      List.mem_cons_self))) hshows

/-- The alias of a table that is joined. -/
theorem shows_alias {name : Value} (h : clause (.ofEngine e) joins = .ok q) (hj : j ∈ joins)
    (htable : j.table = .tuple [name, .text n]) (hs : Text.Solid ("AS " ++ (Dialect.ofEngine e).quoted n)) :
    q.Shows ("AS " ++ (Dialect.ofEngine e).quoted n) := by
  obtain ⟨table, conditions, hclause, -, hshows⟩ := shows_clause hs h hj
  rw [htable] at hclause
  obtain ⟨front, -, hclause⟩ := exists_ok_of_bind hclause
  cases hclause
  exact hshows (.inl (.named front _))

/-- A column on either side of a comparison that a join is made on. -/
theorem shows_column {conditions : List Condition} {joint : Joint} {key operator operand : Value}
    (hdot : '.' ∈ n.toList) (h : clause (.ofEngine e) joins = .ok q) (hj : j ∈ joins)
    (hconditions : j.conditions = some conditions) (hc : .test joint key operator operand ∈ conditions)
    (hn : key = .text n ∨ operand = .text n) (hs : Text.Solid ((Dialect.ofEngine e).quoted n)) :
    q.Shows ((Dialect.ofEngine e).quoted n) := by
  obtain ⟨table, p, -, hp, hshows⟩ := shows_clause hs h hj
  rw [hconditions] at hp
  obtain ⟨body, hbody, hbodies⟩ := Condition.exists_of_expression hp hc
  refine hshows (.inr (hbodies _ ?_))
  rcases hn with rfl | rfl
  · exact shows_comparison hdot hbody
  · exact shows_comparison_right hbody

end Join

end Clauses

end SqlBuilder
