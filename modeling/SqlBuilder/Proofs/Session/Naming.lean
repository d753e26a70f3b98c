import SqlBuilder.Proofs.Session.Selecting
import SqlBuilder.Proofs.Statement.Naming

/-!
The aliases that a builder writes. Wherever its draft holds one, with the prefix or without it, the compiled projection
has it as an identifier.
-/

namespace SqlBuilder

open Act Session

variable {env : Surroundings} {s t : Session} {id : Nat} {b : Builder} {d : Draft} {lead a : String} {role : AliasRole}

/-- A place of a draft, or of a join that it declares, where the alias is written. -/
inductive Session.Writes (s : Session) (d : Draft) (lead a : String) : AliasRole → Prop
  | table {table : String} (htable : .text table ∈ d.tables.toList)
      (ha : Value.lookup? (.text table) (d.aliases.getD []) = some a) : Writes s d lead a .table
  | join {j : DraftJoin} {name : Value} (hj : j ∈ d.joins.getD [])
      (htable : j.table = .tuple [name, .text (lead ++ a)]) : Writes s d lead a .join
  | field {column : String} {field : Field} (hfield : field ∈ d.selects.getD [])
      (hname : field.name = .text (lead ++ (a ++ "." ++ column))) : Writes s d lead a (.qualifier column)
  | condition {column : String} {c : Criterion} (hc : c ∈ d.wheres.getD []) (hcolumns : c.columns = none)
      (hkey : c.key = .text (lead ++ (a ++ "." ++ column))) : Writes s d lead a (.qualifier column)
  | group {column : String} (hfield : .text (lead ++ (a ++ "." ++ column)) ∈ d.groupBys.getD []) :
      Writes s d lead a (.qualifier column)
  | order {column : String} {term : OrderTerm} (hterm : term ∈ d.orderBys.getD [])
      (hfield : term.field = .text (lead ++ (a ++ "." ++ column))) : Writes s d lead a (.qualifier column)
  | comparison {column : String} {j : DraftJoin} {k : Nat} {own : Builder} {d' : Draft} {c : Criterion}
      (hj : j ∈ d.joins.getD []) (hk : j.builder = some k) (hown : s.Has k own d') (hc : c ∈ d'.criteria.getD [])
      (hcolumns : c.columns = none) (hgroup : (c.key.isCallable && c.operand.isNull) = false)
      (hside : c.key = .text (lead ++ (a ++ "." ++ column)) ∨ c.operand = .text (lead ++ (a ++ "." ++ column))) :
      Writes s d lead a (.qualifier column)

theorem Query.Shows.united {q : Query} {n : String} (h : q.Shows n) (members : List (UnionKind × Query)) :
    (q.united members).Shows n := by
  unfold Query.united
  split
  · exact h
  · exact h.enclosed.append_left _

/-- A condition that is no group is written with its key, its operator and its operand. -/
theorem Criterion.Comes.exists_test {R : Session → Session → Prop} {depth : Nat} {declared : List Criterion}
    {conditions : List Condition} (h : List.Forall₂ (Criterion.Comes env depth R s) declared conditions)
    {c : Criterion} (hc : c ∈ declared) (hcolumns : c.columns = none)
    (hgroup : (c.key.isCallable && c.operand.isNull) = false) :
    ∃ joint, .test joint c.key c.operator c.operand ∈ conditions := by
  obtain ⟨condition, hmem, hcomes⟩ := exists_mem_of_forall₂ h hc
  cases hcomes with
  | test => exact ⟨_, hmem⟩
  | group _ hkey hnull =>
      rw [hkey, hnull] at hgroup
      cases hgroup
  | columns hnames =>
      rw [hcolumns] at hnames
      cases hnames

/-- What the draft writes stands in the compiled projection. -/
theorem Session.Has.shows {q : Query} (hs : s.Has id b d)
    (hscripts : Confined (UntouchedBelow s.builders.size) env (compile id .select) s)
    (h : (compile id .select).exec env s = (.ok q, t)) (hwrites : s.Writes d lead a role)
    (hlower : Text.lower a = a) (hsolid : Text.Solid (role.word ++ role.name (.ofEngine s.driver.engine) lead a)) :
    q.Shows (role.word ++ role.name (.ofEngine s.driver.engine) lead a) := by
  obtain ⟨c, own, members, u, hclauses, hown, rfl⟩ := compile_select_eq_ok hs.builder h
  obtain ⟨hjoins, hwheres, -, hothers⟩ := hs.comes hscripts h hclauses
  obtain ⟨qualifier, front, p, back, hwrite, rfl⟩ := Clauses.select_eq_ok hown
  have hpiece : ∀ piece ∈ p.list c, piece.Shows (role.word ++ role.name (.ofEngine s.driver.engine) lead a) →
      ((Query.clauses (front ++ p.list c ++ back)).united members).Shows
        (role.word ++ role.name (.ofEngine s.driver.engine) lead a) := fun piece hpiece hshows =>
    (hshows.clauses hsolid (List.mem_append_left _ (List.mem_append_right _ hpiece))).united members
  have hdot : ∀ column, '.' ∈ (lead ++ (a ++ "." ++ column)).toList := fun column => by simp
  cases hwrites with
  | @table table htable hlookup =>
      obtain ⟨tables, htables, hjoined⟩ := hwrite.tables
      rw [show c.tables = d.tables.toList from congrArg Clauses.tables hothers,
        show c.aliases = d.aliases.getD [] from congrArg Clauses.aliases hothers] at htables
      obtain ⟨part, hpart, hclause⟩ := exists_mem_of_mapM htables htable
      obtain ⟨name, hname, hshows⟩ := shows_tableClause hclause hlookup
      rw [hlower, Dialect.tableName_eq _ rfl rfl] at hname
      cases hname
      exact hpiece p.tables (by simp [Clauses.Pieces.list]) (hjoined ▸ hshows.joined hpart)
  | @join j name hj htable =>
      obtain ⟨join, hjoin, hcomes⟩ := exists_mem_of_forall₂ hjoins hj
      exact hpiece p.joins (by simp [Clauses.Pieces.list])
        (Join.shows_alias hwrite.joins hjoin (hcomes.table.trans htable) hsolid)
  | @field column field hfield hname =>
      have hselects : c.selects = d.selects.getD [] := congrArg Clauses.selects hothers
      have hprojection : field ∈ c.projection := by
        have hmem := List.mem_append_right c.distincts (hselects ▸ hfield)
        unfold Clauses.projection
        rwa [if_neg (by simpa using List.ne_nil_of_mem hmem)]
      refine hpiece p.fields (by simp [Clauses.Pieces.list]) ?_
      rw [AliasRole.word_append_name_qualifier]
      exact Field.shows_renderAll hwrite.fields hprojection hname
  | @condition column c' hc hcolumns hkey =>
      have hgroup : (c'.key.isCallable && c'.operand.isNull) = false := by rw [hkey]; rfl
      obtain ⟨joint, hmem⟩ := Criterion.Comes.exists_test hwheres hc hcolumns hgroup
      rw [hkey] at hmem
      refine hpiece p.wheres (by simp [Clauses.Pieces.list]) ?_
      rw [AliasRole.word_append_name_qualifier]
      exact Condition.shows_clause (hdot column) hwrite.wheres hmem
  | group hfield =>
      have hgroups := hwrite.groups
      rw [show c.groupBys = d.groupBys.getD [] from congrArg Clauses.groupBys hothers] at hgroups
      refine hpiece p.groups (by simp [Clauses.Pieces.list]) ?_
      rw [AliasRole.word_append_name_qualifier]
      exact shows_groupClause hgroups hfield
  | order hterm hfield =>
      have horders := hwrite.orders
      rw [show c.orderBys = d.orderBys.getD [] from congrArg Clauses.orderBys hothers] at horders
      refine hpiece p.orders (by simp [Clauses.Pieces.list]) ?_
      rw [AliasRole.word_append_name_qualifier]
      exact OrderTerm.shows_clause horders hterm hfield
  | @comparison column j k own d' c' hj hk hown hc hcolumns hgroup hside =>
      obtain ⟨join, hjoin, hcomes⟩ := exists_mem_of_forall₂ hjoins hj
      obtain ⟨conditions, hconditions, hall⟩ := hcomes.conditions k hk own d' fun t ht => ht k hown.lt own d' hown
      obtain ⟨joint, hmem⟩ := Criterion.Comes.exists_test hall hc hcolumns hgroup
      rw [AliasRole.word_append_name_qualifier] at hsolid
      refine hpiece p.joins (by simp [Clauses.Pieces.list]) ?_
      rw [AliasRole.word_append_name_qualifier]
      exact Join.shows_column (hdot column) hwrite.joins hjoin hconditions hmem hside hsolid

end SqlBuilder
