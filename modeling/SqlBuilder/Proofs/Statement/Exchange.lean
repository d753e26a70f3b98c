import SqlBuilder.Proofs.Statement.Clause

/-!
Whole statements beside the same ones with their values exchanged, for one engine or for two whose dialects have what
the statements need: both are written or both fail in the same way, and what a relation says about their pieces it says
about them, with their values in the order of their places.
-/

namespace SqlBuilder

/-- Exchanging the values of a projection, which may be that of everything. -/
theorem Clauses.projection_refit (f : Refit) (c : Clauses) :
    (c.refit f).projection = c.projection.map (Field.refit f) := by
  have hfields : (c.refit f).distincts ++ (c.refit f).selects = (c.distincts ++ c.selects).map (Field.refit f) :=
    (List.map_append).symm
  unfold Clauses.projection
  rw [hfields]
  cases c.distincts ++ c.selects with
  | nil => rfl
  | cons field rest => rfl

theorem any_isCallable_name (f : Refit) (tables : List Value) :
    (tables.map f.name).any Value.isCallable = tables.any Value.isCallable := by
  induction tables with
  | nil => rfl
  | cons table rest ih => rw [List.map_cons, List.any_cons, List.any_cons, ih, f.name_isCallable]

theorem SelectTree.isEmpty_refitMembers (f : Refit) (members : List (UnionKind × SelectTree)) :
    (SelectTree.refitMembers f members).isEmpty = members.isEmpty := by
  cases members with
  | nil => rfl
  | cons member rest => rfl

/-- Everything that is projected belongs to the vocabulary, also where nothing is declared. -/
theorem Clauses.Fits.projection {V : Vocabulary} {c : Clauses} (h : c.Fits V) :
    ∀ field ∈ c.projection, field.Fits V := by
  intro field hfield
  simp only [Clauses.projection] at hfield
  split at hfield
  · rw [List.mem_singleton] at hfield
    rw [hfield]
    exact Vocabulary.word_text (V.avoids (by decide))
  · rcases List.mem_append.1 hfield with hf | hf
    · exact h.distincts field hf
    · exact h.selects field hf

/-- There is nothing to walk over in a value that counts as false. -/
theorem Value.elements?_of_not_isTruthy {v : Value} (h : v.isTruthy = false) : v.elements?.getD [] = [] := by
  have hempty : ∀ {α : Type} {xs : List α}, (!xs.isEmpty) = false → xs = [] := fun hxs =>
    List.isEmpty_iff.1 (Bool.not_eq_eq_eq_not.1 hxs)
  cases v with
  | list items => exact hempty h
  | tuple items => exact hempty h
  | set items => exact hempty h
  | map entries => exact congrArg (List.map Prod.fst) (hempty h)
  | text s => rw [bne_eq_false_iff_eq.1 h]; rfl
  | bytes content => exact congrArg (List.map fun b => Value.int b.toNat) (hempty h)
  | _ => rfl

/-! ### Statements for two engines -/

/-- Both engines take the clauses. Only one of them has `DISTINCT ON`, and not every engine writes every number. -/
structure Clauses.Portable (e e' : Engine) (c : Clauses) : Prop where
  distinctOn : e' = e ∨ c.distinctOn = []
  numbers : e.SameLayout e' ∨ c.HasTexts

theorem Clauses.portable_self (e : Engine) (c : Clauses) : c.Portable e e := ⟨.inl rfl, .inl Iff.rfl⟩

mutual

def SelectTree.Portable (e e' : Engine) : SelectTree → Prop
  | .mk clauses members => clauses.Portable e e' ∧ SelectTree.AllPortable e e' members

def SelectTree.AllPortable (e e' : Engine) : List (UnionKind × SelectTree) → Prop
  | [] => True
  | (_, member) :: rest => SelectTree.Portable e e' member ∧ SelectTree.AllPortable e e' rest

end

mutual

theorem SelectTree.portable_self (e : Engine) : ∀ tree : SelectTree, tree.Portable e e
  | .mk clauses members => ⟨clauses.portable_self e, SelectTree.allPortable_self e members⟩

theorem SelectTree.allPortable_self (e : Engine) :
    ∀ members : List (UnionKind × SelectTree), SelectTree.AllPortable e e members
  | [] => trivial
  | (_, member) :: rest => ⟨SelectTree.portable_self e member, SelectTree.allPortable_self e rest⟩

end

namespace StatementTree

def Portable (e e' : Engine) : StatementTree → Prop
  | select tree => tree.Portable e e'
  | update clauses _ => clauses.Portable e e'
  | delete clauses _ => clauses.Portable e e'
  | insert _ _ _ | conditions _ _ => True

/-- Both engines have the same words for an insertion of this kind. -/
def SameVerb (e e' : Engine) : StatementTree → Prop
  | insert _ verb _ => verb.words (.ofEngine e) = verb.words (.ofEngine e') ∧
    verb.suffix (.ofEngine e) = verb.suffix (.ofEngine e')
  | _ => True

theorem portable_self (e : Engine) (t : StatementTree) : t.Portable e e := by
  cases t with
  | select tree => exact tree.portable_self e
  | update clauses data => exact clauses.portable_self e
  | delete clauses columns => exact clauses.portable_self e
  | insert clauses verb data => trivial
  | conditions isBound members => trivial

theorem sameVerb_self (e : Engine) (t : StatementTree) : t.SameVerb e e := by
  cases t with
  | insert clauses verb data => exact ⟨rfl, rfl⟩
  | _ => trivial

end StatementTree

namespace Vocabulary.Respects

variable {V : Vocabulary} {f : Refit} {spare : Bool} {rel : List Value → Query → Query → Prop}
  {e e' : Engine} (law : V.Respects f spare e e' rel)

include law

/-! ### Projections -/

theorem distinctClause {c : Clauses} (h : ∀ field ∈ c.distinctOn, field.Fits V)
    (hportable : e' = e ∨ c.distinctOn = []) :
    Agree (rel (c.distinctOn.flatMap Field.bindings)) (c.distinctClause (Dialect.ofEngine e))
      ((c.refit f).distinctClause (Dialect.ofEngine e')) := by
  have hword : rel [] (.plain (if c.distincts.isEmpty then "" else "DISTINCT"))
      (.plain (if c.distincts.isEmpty then "" else "DISTINCT")) := by
    split
    · exact law.word (by decide)
    · exact law.word (by decide)
  have hdistincts : (c.refit f).distincts.isEmpty = c.distincts.isEmpty := List.isEmpty_map
  have hdistinctOn : (c.refit f).distinctOn.isEmpty = c.distinctOn.isEmpty := List.isEmpty_map
  unfold Clauses.distinctClause
  rw [hdistincts, hdistinctOn]
  cases hempty : c.distinctOn.isEmpty with
  | true =>
      rw [List.isEmpty_iff.1 hempty]
      exact hword
  | false =>
      obtain rfl : e' = e := hportable.resolve_right fun hnone => by simp [hnone] at hempty
      cases (Dialect.ofEngine e').hasDistinctOn with
      | true =>
          refine (law.fields h).bind fun q q' hq => ?_
          exact Agree.pure (law.before (V.avoids (by decide)) (law.enclosed hq))
      | false => exact rfl

theorem selectClauses {c : Clauses} (h : c.Fits V) (hportable : c.Portable e e') :
    Agree (rel (c.projectionValues spare)) (c.select (Dialect.ofEngine e))
      ((c.refit f).select (Dialect.ofEngine e')) := by
  unfold Clauses.select
  refine (law.distinctClause h.distinctOn hportable.distinctOn).bind fun distinct distinct' hdistinct => ?_
  refine (law.tables h.aliases h.tables).bind fun tables tables' htables => ?_
  rw [show (c.refit f).aliases = c.aliases from rfl, show (c.refit f).tables = c.tables.map f.name from rfl,
    qualifierOf_name]
  refine (qualifierOf_avoids h.aliases c.tables).bind ?_
  rintro qualifier _ ⟨rfl, hq⟩
  refine (law.joins h.joins).bind fun joins joins' hjoins => ?_
  refine (law.conditionClause hq (V.avoids (by decide)) h.wheres).bind fun wheres wheres' hwheres => ?_
  refine (law.groupClause h.groupBys).bind fun groups groups' hgroups => ?_
  refine (law.conditionClause hq (V.avoids (by decide)) h.havings).bind fun havings havings' hhavings => ?_
  refine (law.orderClause h.orderBys).bind fun orders orders' horders => ?_
  rw [Clauses.projection_refit]
  refine (law.fields h.projection).bind fun fields fields' hfields => ?_
  rw [any_isCallable_name]
  cases c.tables.any Value.isCallable with
  | true => exact rfl
  | false =>
      refine (law.top h.limit hportable.numbers).bind fun top top' htop => ?_
      refine (law.pages h.limit h.offset h.fetchNext hportable.numbers).bind fun pages pages' hpages => ?_
      refine (law.lock h.locks hportable.numbers).bind fun lock lock' hlock => ?_
      have hfrom : rel [] (.plain (if c.tables.isEmpty then "" else "FROM"))
          (.plain (if c.tables.isEmpty then "" else "FROM")) := by
        split
        · exact law.word (by decide)
        · exact law.word (by decide)
      have hhead := Parts.cons (law.word (by decide : Text.Avoids Text.marks "SELECT"))
        (.cons hdistinct (.cons htop (.cons hfields (.cons hfrom
          (.cons (law.joined (V.avoids (by decide : Text.Avoids Text.marks ",")) htables) (.cons hjoins (.cons hwheres
            (.cons hgroups (.cons hhavings (.singleton horders))))))))))
      have hall := law.clauses ((hhead.append hpages).append (.singleton hlock))
      refine Agree.pure ?_
      have hempty : (c.tables.map f.name).isEmpty = c.tables.isEmpty := List.isEmpty_map
      rw [hempty]
      simpa [Clauses.projectionValues, Clauses.closingValues] using hall

set_option linter.unusedSectionVars false in
mutual

/-- A projection with everything it is united with. -/
theorem selectTree : ∀ tree : SelectTree, tree.Fits V → tree.Portable e e' →
    Agree (rel (tree.values spare)) (tree.render (Dialect.ofEngine e)) ((tree.refit f).render (Dialect.ofEngine e'))
  | .mk clauses members, ⟨hclauses, hmembers⟩, ⟨hportable, hall⟩ => by
      rw [SelectTree.refit, SelectTree.render, SelectTree.render, SelectTree.isEmpty_refitMembers]
      refine (law.selectClauses hclauses hportable).bind fun own own' hown => ?_
      rw [SelectTree.values]
      split
      · rename_i hempty
        rw [List.isEmpty_iff.1 hempty, SelectTree.valuesOf, List.append_nil]
        exact Agree.pure hown
      · refine (selectMembers members hmembers hall).bind fun q q' hq => ?_
        exact Agree.pure (law.append (law.enclosed hown) hq)

theorem selectMembers : ∀ members : List (UnionKind × SelectTree), SelectTree.AllFit V members →
    SelectTree.AllPortable e e' members →
    Agree (rel (SelectTree.valuesOf spare members)) (SelectTree.renderMembers (Dialect.ofEngine e) members)
      (SelectTree.renderMembers (Dialect.ofEngine e') (SelectTree.refitMembers f members))
  | [], _, _ => by
      rw [SelectTree.refitMembers, SelectTree.renderMembers]
      exact Agree.pure (law.word (by decide))
  | (kind, member) :: rest, ⟨hmember, hrest⟩, ⟨hportable, hall⟩ => by
      rw [SelectTree.refitMembers, SelectTree.renderMembers, SelectTree.renderMembers]
      refine (selectTree member hmember hportable).bind fun front front' hfront => ?_
      refine (selectMembers rest hrest hall).bind fun back back' hback => ?_
      have hkind : Text.Avoids Text.marks kind.words := by
        cases kind <;> decide
      exact Agree.pure (law.append (law.before (V.avoids hkind) (law.enclosed hfront)) hback)

end

/-! ### Changes of rows -/

/-- Columns with their new values. -/
theorem assignments {entries : List (Value × Value)} (h : V.Cells entries) :
    Agree (rel (assignedValues spare entries)) (assignments (Dialect.ofEngine e) entries)
      (assignments (Dialect.ofEngine e') (f.cells entries)) := by
  have hparts : Agree (Parts rel (assignedValues spare entries))
      (entries.mapM fun cell => do
        pure (Query.plain ((← (Dialect.ofEngine e).identifier cell.1) ++ " = ") ++ (← SqlBuilder.operandOf cell.2)))
      ((f.cells entries).mapM fun cell => do
        pure (Query.plain ((← (Dialect.ofEngine e').identifier cell.1) ++ " = ") ++
          (← SqlBuilder.operandOf cell.2))) := by
    refine Agree.parts fun cell hcell => ?_
    refine (law.bareIdentifier (h cell hcell).1).bind fun s t hs => ?_
    refine (law.operandOf (h cell hcell).2).bind fun q q' hq => ?_
    rw [Query.plain_append, Query.plain_append]
    exact Agree.pure (law.append (law.behind (V.avoids (by decide)) hs) hq)
  exact hparts.bind fun qs qs' hqs => Agree.pure (law.joined (V.avoids (by decide)) hqs)

omit law in
/-- The table that a statement changes. -/
theorem target (f : Refit) (c : Clauses) :
    Agree (fun v w => c.tables.getLast? = some v ∧ w = f.name v) c.target (c.refit f).target := by
  unfold Clauses.target Clauses.refit
  rw [List.getLast?_map]
  cases hlast : c.tables.getLast? with
  | none => exact rfl
  | some table => exact ⟨rfl, rfl⟩

theorem targetName {table : Value} (h : V.BareName table) :
    Agree (rel (table.spareBindings spare)) (Clauses.targetName (Dialect.ofEngine e) table)
      (Clauses.targetName (Dialect.ofEngine e') (f.name table)) := by
  unfold Clauses.targetName
  refine law.unlessCallable (f.name_isCallable table) Value.spareBindings_of_isCallable fun _ => ?_
  exact (law.bareIdentifier h).bind fun s t hs => Agree.pure hs

theorem duplicateClause {c : Clauses} (h : ∀ entries ∈ c.onDuplicate, V.Cells entries) :
    Agree (rel ((c.onDuplicate.map (assignedValues spare)).getD [])) (c.duplicateClause (Dialect.ofEngine e))
      ((c.refit f).duplicateClause (Dialect.ofEngine e')) := by
  unfold Clauses.duplicateClause Clauses.refit
  cases hc : c.onDuplicate with
  | none => exact law.word (by decide)
  | some entries =>
      cases entries with
      | nil => exact rfl
      | cons cell rest =>
          refine (law.assignments (h _ hc)).bind fun q q' hq => ?_
          exact Agree.pure (law.before (V.avoids (by decide)) hq)

theorem insertion {c : Clauses} (verb : InsertVerb) {data : Value}
    (hsame : (StatementTree.insert c verb data).SameVerb e e' ∨ TextBlind rel)
    (htarget : ∀ table ∈ c.tables.getLast?, V.BareName table) (hdata : V.Data data)
    (honDuplicate : ∀ entries ∈ c.onDuplicate, V.Cells entries) :
    Agree (rel (StatementTree.values spare (.insert c verb data))) (c.insert (Dialect.ofEngine e) verb data)
      ((c.refit f).insert (Dialect.ofEngine e') verb (f.data data)) := by
  have hwords : Text.Avoids Text.marks (verb.words (Dialect.ofEngine e) ++ " INTO") := by
    cases e <;> cases verb <;> decide
  have hbehind : Text.Avoids Text.marks (verb.suffix (Dialect.ofEngine e)) := by
    cases e <;> cases verb <;> decide
  have hverb : rel [] (.plain (verb.words (Dialect.ofEngine e) ++ " INTO"))
      (.plain (verb.words (Dialect.ofEngine e') ++ " INTO")) := by
    rcases hsame with ⟨hverbs, -⟩ | hblind
    · rw [← hverbs]
      exact law.word hwords
    · exact hblind _ _
  have hsuffix : rel [] (.plain (verb.suffix (Dialect.ofEngine e))) (.plain (verb.suffix (Dialect.ofEngine e'))) := by
    rcases hsame with ⟨-, hsuffixes⟩ | hblind
    · rw [← hsuffixes]
      exact law.word hbehind
    · exact hblind _ _
  unfold Clauses.insert
  refine (target f c).bind ?_
  rintro table _ ⟨hlast, rfl⟩
  cases data with
  | map entries =>
      have hitems : ∀ v ∈ entries.map (·.2), V.Item v := by
        intro v hv
        obtain ⟨cell, hcell, rfl⟩ := List.mem_map.1 hv
        exact (hdata cell hcell).2
      have hnames : ∀ v ∈ entries.map (·.1), V.BareName v := by
        intro v hv
        obtain ⟨cell, hcell, rfl⟩ := List.mem_map.1 hv
        exact (hdata cell hcell).1
      have hvalues := law.operandsOf hitems
      have hcolumns := law.nameList hnames
      rw [List.map_map, List.flatMap_map] at hvalues
      rw [List.map_map] at hcolumns
      simp only [Refit.data, Refit.cells, List.map_map]
      refine hvalues.bind fun values values' hvalues => ?_
      refine (law.targetName (htarget table hlast)).bind fun name name' hname => ?_
      refine hcolumns.bind fun columns columns' hcolumns => ?_
      refine (law.duplicateClause honDuplicate).bind fun onDuplicate onDuplicate' honDuplicate => ?_
      rw [requireTable_eq (f.name_isCallable table)]
      refine (Agree.same _).bind fun _ _ _ => Agree.pure ?_
      have hparts := Parts.cons hverb (.cons hname (.cons (law.enclosed hcolumns)
        (.cons (law.word (by decide : Text.Avoids Text.marks "VALUES")) (.cons (law.enclosed hvalues)
          (.cons hsuffix (.singleton honDuplicate))))))
      have hall := law.clauses hparts
      simpa [StatementTree.values, Clauses.targetValues, hlast, cellValues] using hall
  | _ => exact rfl

theorem update {c : Clauses} {data : Value} (h : c.Fits V) (hportable : c.Portable e e')
    (htarget : ∀ table ∈ c.tables.getLast?, V.BareName table) (hdata : V.Data data) :
    Agree (rel (StatementTree.values spare (.update c data))) (c.update (Dialect.ofEngine e) data)
      ((c.refit f).update (Dialect.ofEngine e') (f.data data)) := by
  have htruthy : (f.data data).isTruthy = data.isTruthy := by
    cases data with
    | map entries => exact congrArg (!·) List.isEmpty_map
    | _ => rfl
  unfold Clauses.update
  rw [htruthy]
  cases data.isTruthy with
  | false => exact rfl
  | true =>
      refine (target f c).bind ?_
      rintro table _ ⟨hlast, rfl⟩
      rw [show (c.refit f).aliases = c.aliases from rfl, aliasOf?_name]
      refine (aliasOf?_avoids h.aliases table).bind ?_
      rintro qualifier _ ⟨rfl, hq⟩
      have hclause : Agree (fun q q' => rel (table.spareBindings spare) (.plain q.sql) (.plain q'.sql))
          (SqlBuilder.unlessCallable table (SqlBuilder.tableClause (Dialect.ofEngine e) c.aliases table))
          (SqlBuilder.unlessCallable (f.name table)
            (SqlBuilder.tableClause (Dialect.ofEngine e') c.aliases (f.name table))) := by
        unfold SqlBuilder.unlessCallable
        rw [f.name_isCallable]
        split
        · rename_i hcallable
          rw [Value.spareBindings_of_isCallable hcallable]
          exact law.word (by decide)
        · rename_i hcallable
          exact law.bareTableClause h.aliases (htarget table hlast) (Bool.eq_false_iff.2 hcallable)
      refine hclause.bind fun name name' hname => ?_
      refine (law.joins h.joins).bind fun joins joins' hjoins => ?_
      cases data with
      | map entries =>
          refine (law.assignments hdata).bind fun changes changes' hchanges => ?_
          refine (law.conditionClause hq (V.avoids (by decide)) h.wheres).bind fun wheres wheres' hwheres => ?_
          refine (law.groupClause h.groupBys).bind fun groups groups' hgroups => ?_
          refine (law.orderClause h.orderBys).bind fun orders orders' horders => ?_
          refine (law.pages h.limit h.offset h.fetchNext hportable.numbers).bind fun pages pages' hpages => ?_
          rw [requireTable_eq (f.name_isCallable table)]
          refine (Agree.same _).bind fun _ _ _ => Agree.pure ?_
          have hparts := Parts.cons (law.word (by decide : Text.Avoids Text.marks "UPDATE")) (.cons hname (.cons hjoins
            (.cons (law.before (V.avoids (by decide : Text.Avoids Text.marks "SET ")) hchanges)
              (.cons hwheres (.cons hgroups (.singleton horders))))))
          have hall := law.clauses (hparts.append hpages)
          simpa [StatementTree.values, Clauses.targetValues, hlast, Clauses.closingValues,
            Condition.valuesOf] using hall
      | _ => exact rfl

theorem deleteColumns {columns : Value} (h : V.Columns columns) :
    Agree (fun s t => rel ((columns.elements?.getD []).flatMap (Value.spareBindings spare)) (.plain s) (.plain t))
      (Clauses.deleteColumns (Dialect.ofEngine e) columns)
      (Clauses.deleteColumns (Dialect.ofEngine e') (f.columns columns)) := by
  unfold Clauses.deleteColumns
  rw [f.columns_isTruthy, f.columns_elements?]
  cases htruthy : columns.isTruthy with
  | false =>
      rw [Value.elements?_of_not_isTruthy htruthy]
      exact law.word (by decide)
  | true =>
      cases hnames : columns.elements? with
      | none => exact rfl
      | some names => exact law.nameList (h names hnames)

theorem delete {c : Clauses} {columns : Value} (h : c.Fits V) (hportable : c.Portable e e')
    (htarget : ∀ table ∈ c.tables.getLast?, V.BareName table) (hcolumns : V.Columns columns) :
    Agree (rel (StatementTree.values spare (.delete c columns))) (c.delete (Dialect.ofEngine e) columns)
      ((c.refit f).delete (Dialect.ofEngine e') (f.columns columns)) := by
  unfold Clauses.delete
  refine (target f c).bind ?_
  rintro table _ ⟨hlast, rfl⟩
  refine (law.joins h.joins).bind fun joins joins' hjoins => ?_
  have hq : ∀ q ∈ (none : Option String), Text.Avoids V.special q := fun q hq => absurd hq (Option.not_mem_none q)
  refine (law.conditionClause hq (V.avoids (by decide)) h.wheres).bind fun wheres wheres' hwheres => ?_
  refine (law.groupClause h.groupBys).bind fun groups groups' hgroups => ?_
  refine (law.orderClause h.orderBys).bind fun orders orders' horders => ?_
  refine (law.deleteColumns hcolumns).bind fun names names' hnames => ?_
  refine (law.targetName (htarget table hlast)).bind fun name name' hname => ?_
  refine (law.pages h.limit h.offset h.fetchNext hportable.numbers).bind fun pages pages' hpages => ?_
  rw [requireTable_eq (f.name_isCallable table)]
  refine (Agree.same _).bind fun _ _ _ => Agree.pure ?_
  have hparts := Parts.cons (law.word (by decide : Text.Avoids Text.marks "DELETE")) (.cons hnames
    (.cons (law.word (by decide : Text.Avoids Text.marks "FROM")) (.cons hname (.cons hjoins
      (.cons hwheres (.cons hgroups (.singleton horders)))))))
  have hall := law.clauses (hparts.append hpages)
  simpa [StatementTree.values, Clauses.targetValues, hlast, Clauses.closingValues, Condition.valuesOf] using hall

/-- Every statement that both engines take beside the same one with its values exchanged. -/
theorem statement : ∀ t : StatementTree, t.Fits V → t.Portable e e' → t.SameVerb e e' ∨ TextBlind rel →
    Agree (rel (t.values spare)) (t.render (Dialect.ofEngine e)) ((t.refit f).render (Dialect.ofEngine e'))
  | .select tree, h, hportable, _ => law.selectTree tree h hportable
  | .insert _ verb _, ⟨htarget, hdata, honDuplicate⟩, _, hverb => law.insertion verb hverb htarget hdata honDuplicate
  | .update _ _, ⟨h, htarget, hdata⟩, hportable, _ => law.update h hportable htarget hdata
  | .delete _ _, ⟨h, htarget, hcolumns⟩, hportable, _ => law.delete h hportable htarget hcolumns
  | .conditions _ _, h, _, _ => law.expression (fun q hq => absurd hq (Option.not_mem_none q)) h

omit law in
/-- Every statement beside the same one with its values exchanged, for one engine. -/
theorem statement_self (law : V.Respects f spare e e rel) (t : StatementTree) (h : t.Fits V) :
    Agree (rel (t.values spare)) (t.render (Dialect.ofEngine e)) ((t.refit f).render (Dialect.ofEngine e)) :=
  law.statement t h (t.portable_self e) (.inl (t.sameVerb_self e))

end Vocabulary.Respects

end SqlBuilder
