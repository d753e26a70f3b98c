import SqlBuilder.Statement.Clause
import SqlBuilder.Proofs.Statement.Condition

/-!
The clauses of a statement in writing, beside the same ones with their values exchanged.
-/

namespace SqlBuilder

theorem Value.fragmentBindings_of_isCallable {v : Value} (h : v.isCallable = true) : v.fragmentBindings = [] := by
  cases v with
  | raw content bindings => exact absurd h (by simp [Value.isCallable])
  | _ => rfl

theorem Value.spareBindings_of_isCallable {spare : Bool} {v : Value} (h : v.isCallable = true) :
    v.spareBindings spare = [] := by
  rw [Value.spareBindings, Value.fragmentBindings_of_isCallable h, ite_self]

theorem joinedValues_of_isCallable {spare : Bool} {v : Value} (h : v.isCallable = true) :
    joinedValues spare v = [] := by
  cases v with
  | tuple names => exact absurd h (by simp [Value.isCallable])
  | _ => exact Value.fragmentBindings_of_isCallable h

theorem Refit.joined_isCallable (f : Refit) (v : Value) : (f.joined v).isCallable = v.isCallable := by
  cases v with
  | tuple names => rfl
  | raw content bindings => exact f.name_isCallable _
  | _ => rfl

/-- The alias of a table does not depend on the values of the table. -/
theorem aliasOf?_name (f : Refit) (aliases : List (Value × String)) (table : Value) :
    aliasOf? aliases (f.name table) = aliasOf? aliases table := by
  unfold aliasOf?
  rw [f.name_isRaw]
  cases hraw : table.isRaw with
  | true => rfl
  | false => rw [f.name_of_not_raw hraw]

theorem qualifierOf_name (f : Refit) (aliases : List (Value × String)) (tables : List Value) :
    qualifierOf aliases (tables.map f.name) = qualifierOf aliases tables := by
  unfold qualifierOf
  rw [List.getLast?_map]
  cases tables.getLast? with
  | none => rfl
  | some table => exact aliasOf?_name f aliases table

theorem requireTable_eq {table other : Value} (h : other.isCallable = table.isCallable) :
    requireTable other = requireTable table := by
  unfold requireTable
  rw [h]

theorem Join.tableClause_of_ne_tuple (d : Dialect) {v : Value} (h : ∀ names, v ≠ .tuple names) :
    Join.tableClause d v = (do pure ⟨← d.identifier v, v.fragmentBindings⟩) := by
  cases v with
  | tuple names => exact absurd rfl (h names)
  | _ => rfl

/-- The name of a table with or without its marks. -/
theorem Dialect.tableName_eq (d : Dialect) {v : Value} (hraw : v.isRaw = false) (hcallable : v.isCallable = false) :
    d.tableName v = (do
      let s ← v.written
      pure (if d.quotesTables then .ofList (d.quoteName s.toList) else s)) := by
  unfold tableName identifier
  rw [hraw, hcallable]
  cases d.quotesTables with
  | true => rfl
  | false => cases v.written <;> rfl

/-- What only some engines write of the numbers of rows and the lock has a text. -/
structure Clauses.HasTexts (c : Clauses) : Prop where
  limit : ∀ v ∈ c.limit, v.written?.isSome
  fetchNext : ∀ v ∈ c.fetchNext, v.written?.isSome
  locks : ∀ v ∈ c.locks.head?, v.written?.isSome

namespace Clauses.HasTexts

theorem exists_counted {number : Option Value} (h : ∀ v ∈ number, v.written?.isSome) (before after : String) :
    ∃ s, counted before number after = .ok s := by
  cases number with
  | none => exact ⟨"", rfl⟩
  | some v =>
      obtain ⟨s, hs⟩ := Option.isSome_iff_exists.1 (h v rfl)
      refine ⟨before ++ s ++ after, ?_⟩
      simp only [counted, Value.written, hs]
      rfl

variable {c : Clauses} (h : c.HasTexts) (d : Dialect)

include h

theorem top : ∃ s, c.top d = .ok s := by
  unfold Clauses.top
  split
  · exact ⟨"", rfl⟩
  · exact exists_counted h.limit _ _

theorem lock : ∃ s, c.lock d = .ok s := by
  unfold Clauses.lock
  split
  · exact exists_counted h.locks _ _
  · exact ⟨"", rfl⟩

/-- Only the number of rows that are passed over may lack a text, for one engine as for another. -/
theorem pages : Agree (fun _ parts => ∃ s t, parts = [.plain s, .plain t]) (counted "" c.offset "") (c.pages d) := by
  have hoffset : ∀ after, Agree (fun _ _ => True) (counted "" c.offset "") (counted "OFFSET " c.offset after) := by
    intro after
    unfold counted
    cases c.offset with
    | none => trivial
    | some v => exact (Agree.same _).bind fun _ _ _ => Agree.pure trivial
  obtain ⟨limit, hlimit⟩ := exists_counted h.limit "LIMIT " ""
  obtain ⟨rows, hrows⟩ := exists_counted h.fetchNext "FETCH NEXT " " ROWS ONLY"
  unfold Clauses.pages
  rw [hlimit, hrows]
  rw [← bind_pure (counted "" c.offset "")]
  split
  · exact (hoffset "").bind fun _ t _ => Agree.pure ⟨limit, t, rfl⟩
  · exact (hoffset " ROWS").bind fun _ s _ => Agree.pure ⟨s, rows, rfl⟩

end Clauses.HasTexts

namespace Vocabulary

variable {V : Vocabulary}

/-- A declared alias holds no special character. -/
theorem aliasOf?_avoids {aliases : List (Value × String)} (h : ∀ entry ∈ aliases, Text.Avoids V.special entry.2)
    (table : Value) :
    Agree (fun q r => q = r ∧ ∀ s ∈ q, Text.Avoids V.special s) (aliasOf? aliases table) (aliasOf? aliases table) := by
  unfold aliasOf?
  split
  · exact ⟨rfl, fun s hs => absurd hs (Option.not_mem_none s)⟩
  · split
    · refine ⟨rfl, fun s hs => ?_⟩
      obtain ⟨entry, hentry, rfl⟩ := Option.map_eq_some_iff.1 hs
      exact h entry (List.mem_of_find?_eq_some hentry)
    · exact rfl

theorem qualifierOf_avoids {aliases : List (Value × String)}
    (h : ∀ entry ∈ aliases, Text.Avoids V.special entry.2) (tables : List Value) :
    Agree (fun q r => q = r ∧ ∀ s ∈ q, Text.Avoids V.special s) (qualifierOf aliases tables)
      (qualifierOf aliases tables) := by
  unfold qualifierOf
  split
  · exact ⟨rfl, fun s hs => absurd hs (Option.not_mem_none s)⟩
  · exact aliasOf?_avoids h _

/-- A word with a number behind it. -/
theorem counted_avoids {before after : String} {number : Option Value} (hbefore : Text.Avoids V.special before)
    (hafter : Text.Avoids V.special after) (h : ∀ v ∈ number, V.Word v) :
    Agree (fun s t => s = t ∧ Text.Avoids V.special s) (Clauses.counted before number after)
      (Clauses.counted before number after) := by
  unfold Clauses.counted
  cases number with
  | none => exact ⟨rfl, Text.avoids_empty⟩
  | some v =>
      refine (h v rfl).written.bind ?_
      rintro s _ ⟨rfl, hs⟩
      exact Agree.pure ⟨rfl, (hbefore.append hs).append hafter⟩

end Vocabulary

namespace Vocabulary.Respects

variable {V : Vocabulary} {f : Refit} {spare : Bool} {rel : List Value → Query → Query → Prop}
  {e e' : Engine} (law : V.Respects f spare e e' rel)

include law

/-! ### Projections, orders and groups -/

theorem field {field : Field} (h : field.Fits V) :
    Agree (rel field.bindings) (field.render (Dialect.ofEngine e)) ((field.refit f).render (Dialect.ofEngine e')) := by
  cases field with
  | plain name =>
      refine (law.identifier h).bind fun s t hs => ?_
      exact Agree.pure hs
  | aliased name shortName =>
      refine (law.identifier h.1).bind fun s t hs => ?_
      refine (law.shortName h.2).bind fun u w hu => ?_
      refine Agree.pure ?_
      rw [Query.mk_append, Query.mk_append, Query.mk_append, Query.mk_append]
      exact law.append_of_eq (law.behind (V.avoids (by decide)) hs) hu (List.append_nil _)

theorem fields {fields : List Field} (h : ∀ field ∈ fields, field.Fits V) :
    Agree (rel (fields.flatMap Field.bindings)) (Field.renderAll (Dialect.ofEngine e) fields)
      (Field.renderAll (Dialect.ofEngine e') (fields.map (Field.refit f))) := by
  unfold Field.renderAll
  refine (Agree.parts fun field hfield => law.field (h field hfield)).bind fun qs qs' hqs => ?_
  exact Agree.pure (law.joined (V.avoids (by decide)) hqs)

theorem orderTerm {term : OrderTerm} (h : term.Fits V) :
    Agree (rel term.field.fragmentBindings) (term.render (Dialect.ofEngine e))
      ((term.refit f).render (Dialect.ofEngine e')) := by
  refine (law.identifier h.field).bind fun s t hs => ?_
  refine Agree.pure ?_
  rw [Query.mk_append, Query.mk_append, Query.mk_append, Query.mk_append]
  exact law.behind h.direction (law.behind (V.avoids (by decide)) hs)

theorem orderClause {terms : List OrderTerm} (h : ∀ term ∈ terms, term.Fits V) :
    Agree (rel (terms.flatMap fun term => term.field.fragmentBindings))
      (OrderTerm.clause (Dialect.ofEngine e) terms)
      (OrderTerm.clause (Dialect.ofEngine e') (terms.map (OrderTerm.refit f))) := by
  unfold OrderTerm.clause
  refine (Agree.parts fun term hterm => law.orderTerm (h term hterm)).bind fun qs qs' hqs => ?_
  refine Agree.pure ?_
  cases terms with
  | nil => exact law.word (by decide)
  | cons term rest => exact law.before (V.avoids (by decide)) (law.joined (V.avoids (by decide)) hqs)

theorem groupClause {names : List Value} (h : ∀ name ∈ names, V.Name name) :
    Agree (rel (names.flatMap Value.fragmentBindings)) (groupClause (Dialect.ofEngine e) names)
      (groupClause (Dialect.ofEngine e') (names.map f.name)) := by
  have hfields : ∀ field ∈ names.map Field.plain, field.Fits V := by
    intro field hfield
    obtain ⟨name, hname, rfl⟩ := List.mem_map.1 hfield
    exact h name hname
  have hrefit : (names.map f.name).map Field.plain = (names.map Field.plain).map (Field.refit f) := by
    rw [List.map_map, List.map_map]
    rfl
  have hvalues : (names.map Field.plain).flatMap Field.bindings = names.flatMap Value.fragmentBindings := by
    rw [List.flatMap_map]
    rfl
  unfold SqlBuilder.groupClause
  rw [hrefit, ← hvalues]
  refine (law.fields hfields).bind fun q q' hq => ?_
  refine Agree.pure ?_
  cases names with
  | nil => exact law.word (by decide)
  | cons name rest => exact law.before (V.avoids (by decide)) hq

/-! ### Tables and joins -/

/-- What can be called is passed over, whatever its clause would be. -/
theorem unlessCallable {table other : Value} {vs : List Value} {m m' : Except Fault Query}
    (hcallable : other.isCallable = table.isCallable) (hvalues : table.isCallable = true → vs = [])
    (h : table.isCallable = false → Agree (rel vs) m m') :
    Agree (rel vs) (unlessCallable table m) (unlessCallable other m') := by
  unfold SqlBuilder.unlessCallable
  rw [hcallable]
  cases hc : table.isCallable with
  | true =>
      rw [hvalues hc]
      exact law.word (by decide)
  | false => exact h hc

/-- The name of a table that is no fragment of SQL. -/
theorem tableName {v : Value} (h : V.Word v) (hraw : v.isRaw = false) (hcallable : v.isCallable = false) :
    Agree (fun s t => rel [] (.plain s) (.plain t)) ((Dialect.ofEngine e).tableName v)
      ((Dialect.ofEngine e').tableName v) := by
  rw [Dialect.tableName_eq _ hraw hcallable, Dialect.tableName_eq _ hraw hcallable]
  refine h.written.bind ?_
  rintro s _ ⟨rfl, hs⟩
  refine Agree.pure ?_
  rcases law.layout with hlayout | hblind
  · rw [hlayout.quotesTables]
    split
    · exact law.quoteName hs
    · exact law.text s hs
  · exact hblind _ _

/-- A table that is no fragment of SQL, with its alias. -/
theorem tableClause_of_word {aliases : List (Value × String)}
    (haliases : ∀ entry ∈ aliases, Text.Avoids V.special entry.2) {table : Value} (h : V.Word table)
    (hraw : table.isRaw = false) (hcallable : table.isCallable = false) :
    Agree (fun q q' => ∃ s t, q = .plain s ∧ q' = .plain t ∧ rel [] (.plain s) (.plain t))
      (tableClause (Dialect.ofEngine e) aliases table) (tableClause (Dialect.ofEngine e') aliases table) := by
  unfold SqlBuilder.tableClause
  rw [hraw]
  refine (aliasOf?_avoids haliases table).bind ?_
  rintro shortName _ ⟨rfl, hshort⟩
  cases shortName with
  | none => exact (law.tableName h hraw hcallable).bind fun s t hs => Agree.pure ⟨s, t, rfl, rfl, hs⟩
  | some shortName =>
      have hlower : V.Word (.text (Text.lower shortName)) :=
        Vocabulary.word_text ((hshort shortName rfl).lower V.special_subset)
      refine (law.tableName h hraw hcallable).bind fun s s' hs => ?_
      refine (law.tableName hlower rfl rfl).bind fun t t' ht => ?_
      exact Agree.pure ⟨_, _, rfl, rfl, law.append (law.behind (V.avoids (by decide)) hs) ht⟩

/-- A table that a statement reads, with its alias. -/
theorem tableClause {aliases : List (Value × String)}
    (haliases : ∀ entry ∈ aliases, Text.Avoids V.special entry.2) {table : Value} (h : V.Name table)
    (hcallable : table.isCallable = false) :
    Agree (rel table.fragmentBindings) (tableClause (Dialect.ofEngine e) aliases table)
      (tableClause (Dialect.ofEngine e') aliases (f.name table)) := by
  cases hraw : table.isRaw with
  | true =>
      unfold SqlBuilder.tableClause
      rw [f.name_isRaw, hraw]
      exact law.fragmentOf hraw h
  | false =>
      rw [f.name_of_not_raw hraw, Value.fragmentBindings_of_not_raw hraw]
      refine (law.tableClause_of_word haliases (Name.word h hraw) hraw hcallable).mono ?_
      rintro _ _ ⟨s, t, rfl, rfl, hs⟩
      exact hs

/-- The text of a table that a statement changes, with its alias. -/
theorem bareTableClause {aliases : List (Value × String)}
    (haliases : ∀ entry ∈ aliases, Text.Avoids V.special entry.2) {table : Value} (h : V.BareName table)
    (hcallable : table.isCallable = false) :
    Agree (fun q q' => rel (table.spareBindings spare) (.plain q.sql) (.plain q'.sql))
      (SqlBuilder.tableClause (Dialect.ofEngine e) aliases table)
      (SqlBuilder.tableClause (Dialect.ofEngine e') aliases (f.name table)) := by
  rcases table.raw_cases with ⟨s, bindings, rfl⟩ | ⟨content, bindings, rfl, hcontent⟩ | hraw
  · exact law.bare s bindings h
  · rw [f.name_of_not_text hcontent]
    have hw : ∀ engine, SqlBuilder.tableClause (Dialect.ofEngine engine) aliases (.raw content bindings) =
        .error .typeMismatch := by
      intro engine
      change SqlBuilder.fragmentOf (.raw content bindings) = _
      unfold SqlBuilder.fragmentOf
      rw [Value.written_raw_of_not_text hcontent]
      rfl
    rw [hw, hw]
    exact rfl
  · rw [f.name_of_not_raw hraw]
    rw [Value.spareBindings_of_not_raw spare hraw]
    refine (law.tableClause_of_word haliases (BareName.word h hraw) hraw hcallable).mono ?_
    rintro _ _ ⟨s, t, rfl, rfl, hs⟩
    exact hs

/-- A pair of a name and an alias, of which the texts are written. -/
theorem joinedPair {names : List Value} (h : ∀ name ∈ names, V.BareName name) :
    Agree (rel (names.flatMap (Value.spareBindings spare))) (Join.tableClause (Dialect.ofEngine e) (.tuple names))
      (Join.tableClause (Dialect.ofEngine e') (.tuple (names.map f.name))) := by
  match names with
  | [] => exact rfl
  | [only] => exact rfl
  | [name, shortName] =>
      refine (law.bareIdentifier (h name List.mem_cons_self)).bind fun s t hs => ?_
      refine (law.bareIdentifier (h shortName (List.mem_cons_of_mem name List.mem_cons_self))).bind
        fun u w hu => ?_
      refine Agree.pure (law.append_of_eq (law.behind (V.avoids (by decide)) hs) hu ?_)
      simp
  | first :: second :: third :: rest =>
      have hmany : ∀ (engine : Engine) (a b c : Value) (items : List Value),
          Join.tableClause (Dialect.ofEngine engine) (.tuple (a :: b :: c :: items)) =
            .error (.value .tooManyParts) := by
        intro engine a b c items
        have hlength : ¬ (a :: b :: c :: items).length < 2 := by simp
        exact congrArg (fun fault => Except.error (Fault.value fault)) (if_neg hlength)
      rw [List.map_cons, List.map_cons, List.map_cons, hmany, hmany]
      exact rfl

/-- What is joined. -/
theorem joinedTable {v : Value} (h : V.Joined v) :
    Agree (rel (joinedValues spare v)) (Join.tableClause (Dialect.ofEngine e) v)
      (Join.tableClause (Dialect.ofEngine e') (f.joined v)) := by
  by_cases htuple : ∃ names, v = .tuple names
  · obtain ⟨names, rfl⟩ := htuple
    exact law.joinedPair h
  · have hne : ∀ names, v ≠ .tuple names := fun names hv => htuple ⟨names, hv⟩
    have hname : V.Name v := by
      cases v with
      | tuple names => exact absurd rfl (hne names)
      | _ => exact h
    have hrefit : f.joined v = f.name v := by
      cases v with
      | tuple names => exact absurd rfl (hne names)
      | _ => rfl
    have hvalues : joinedValues spare v = v.fragmentBindings := by
      cases v with
      | tuple names => exact absurd rfl (hne names)
      | _ => rfl
    have hne' : ∀ names, f.name v ≠ .tuple names := by
      intro names hv
      cases hraw : v.isRaw with
      | false => exact hne names (by rwa [f.name_of_not_raw hraw] at hv)
      | true =>
          rw [← f.name_isRaw v, hv] at hraw
          exact absurd hraw Bool.false_ne_true
    rw [hrefit, hvalues, Join.tableClause_of_ne_tuple _ hne, Join.tableClause_of_ne_tuple _ hne']
    exact (law.identifier hname).bind fun s t hs => Agree.pure hs

theorem join {j : Join} (h : j.Fits V) :
    Agree (rel (j.values spare)) (j.render (Dialect.ofEngine e)) ((j.refit f).render (Dialect.ofEngine e')) := by
  have hcallable := f.joined_isCallable j.table
  have htable := law.unlessCallable hcallable joinedValues_of_isCallable fun _ => law.joinedTable h.table
  have hconditions : Agree (rel ((j.conditions.map (Condition.valuesOf spare false)).getD []))
      (Join.conditionClause (Dialect.ofEngine e) j.conditions)
      (Join.conditionClause (Dialect.ofEngine e') (j.refit f).conditions) := by
    unfold Join.refit
    cases hc : j.conditions with
    | none => exact law.word (by decide)
    | some conditions =>
        exact law.expression (fun q hq => absurd hq (Option.not_mem_none q)) (h.conditions conditions hc)
  unfold Join.render
  refine htable.bind fun q q' hq => ?_
  refine hconditions.bind fun r r' hr => ?_
  rw [show (j.refit f).table = f.joined j.table from rfl, requireTable_eq hcallable]
  refine (Agree.same _).bind fun _ _ _ => ?_
  have hwords : Parts rel [] [.plain (Text.upper j.kind), .plain "JOIN"]
      [.plain (Text.upper j.kind), .plain "JOIN"] :=
    .cons (law.text _ (h.kind.upper V.special_subset)) (.singleton (law.word (by decide)))
  exact Agree.pure (law.clauses (hwords.append (Parts.cons hq (.singleton hr))))

theorem joins {joins : List Join} (h : ∀ j ∈ joins, j.Fits V) :
    Agree (rel (joins.flatMap (Join.values spare))) (Join.clause (Dialect.ofEngine e) joins)
      (Join.clause (Dialect.ofEngine e') (joins.map (Join.refit f))) := by
  unfold Join.clause
  exact (Agree.parts fun j hj => law.join (h j hj)).bind fun qs qs' hqs => Agree.pure (law.clauses hqs)

/-- The tables that a projection reads. -/
theorem tables {aliases : List (Value × String)} (haliases : ∀ entry ∈ aliases, Text.Avoids V.special entry.2)
    {tables : List Value} (h : ∀ table ∈ tables, V.Name table) :
    Agree (Parts rel (tables.flatMap Value.fragmentBindings))
      (tables.mapM fun table =>
        SqlBuilder.unlessCallable table (SqlBuilder.tableClause (Dialect.ofEngine e) aliases table))
      ((tables.map f.name).mapM fun table =>
        SqlBuilder.unlessCallable table (SqlBuilder.tableClause (Dialect.ofEngine e') aliases table)) :=
  Agree.parts fun table htable =>
    law.unlessCallable (f.name_isCallable table) Value.fragmentBindings_of_isCallable
      fun hcallable => law.tableClause haliases (h table htable) hcallable

/-! ### Numbers of rows -/

/-- Where the engines ask for rows in different words, numbers with a text are asked for by both. -/
theorem pages {c : Clauses} (hlimit : ∀ v ∈ c.limit, V.Word v) (hoffset : ∀ v ∈ c.offset, V.Word v)
    (hfetch : ∀ v ∈ c.fetchNext, V.Word v) (hnumbers : e.SameLayout e' ∨ c.HasTexts) :
    Agree (Parts rel []) (c.pages (Dialect.ofEngine e)) ((c.refit f).pages (Dialect.ofEngine e')) := by
  by_cases hlayout : e.SameLayout e'
  · unfold Clauses.pages
    rw [hlayout.paging]
    split
    · refine (counted_avoids (V.avoids (by decide)) Text.avoids_empty hlimit).bind ?_
      rintro s _ ⟨rfl, hs⟩
      refine (counted_avoids (V.avoids (by decide)) Text.avoids_empty hoffset).bind ?_
      rintro t _ ⟨rfl, ht⟩
      exact Agree.pure (.cons (law.text s hs) (.singleton (law.text t ht)))
    · refine (counted_avoids (V.avoids (by decide)) (V.avoids (by decide)) hoffset).bind ?_
      rintro s _ ⟨rfl, hs⟩
      refine (counted_avoids (V.avoids (by decide)) (V.avoids (by decide)) hfetch).bind ?_
      rintro t _ ⟨rfl, ht⟩
      exact Agree.pure (.cons (law.text s hs) (.singleton (law.text t ht)))
  · have hblind := law.layout.resolve_left hlayout
    have htexts := hnumbers.resolve_left hlayout
    refine ((htexts.pages (Dialect.ofEngine e)).meet (htexts.pages (Dialect.ofEngine e'))).mono ?_
    rintro _ _ ⟨-, ⟨s, t, rfl⟩, s', t', rfl⟩
    exact .cons (hblind s s') (.singleton (hblind t t'))

theorem top {c : Clauses} (hlimit : ∀ v ∈ c.limit, V.Word v) (hnumbers : e.SameLayout e' ∨ c.HasTexts) :
    Agree (fun s t => rel [] (.plain s) (.plain t)) (c.top (Dialect.ofEngine e))
      ((c.refit f).top (Dialect.ofEngine e')) := by
  by_cases hlayout : e.SameLayout e'
  · unfold Clauses.top
    rw [hlayout.paging]
    split
    · exact law.word (by decide)
    · refine (counted_avoids (V.avoids (by decide)) Text.avoids_empty hlimit).mono ?_
      rintro s _ ⟨rfl, hs⟩
      exact law.text s hs
  · obtain ⟨s, hs⟩ := (hnumbers.resolve_left hlayout).top (Dialect.ofEngine e)
    obtain ⟨t, ht⟩ := (hnumbers.resolve_left hlayout).top (Dialect.ofEngine e')
    change Agree _ _ (c.top _)
    rw [hs, ht]
    exact law.layout.resolve_left hlayout s t

theorem lock {c : Clauses} (hlocks : ∀ v ∈ c.locks, V.Word v) (hnumbers : e.SameLayout e' ∨ c.HasTexts) :
    Agree (fun s t => rel [] (.plain s) (.plain t)) (c.lock (Dialect.ofEngine e))
      ((c.refit f).lock (Dialect.ofEngine e')) := by
  by_cases hlayout : e.SameLayout e'
  · unfold Clauses.lock
    rw [hlayout.locksRows]
    split
    · refine (counted_avoids (V.avoids (by decide)) Text.avoids_empty
        fun v hv => hlocks v (List.mem_of_mem_head? hv)).mono ?_
      rintro s _ ⟨rfl, hs⟩
      exact law.text s hs
    · exact law.word (by decide)
  · obtain ⟨s, hs⟩ := (hnumbers.resolve_left hlayout).lock (Dialect.ofEngine e)
    obtain ⟨t, ht⟩ := (hnumbers.resolve_left hlayout).lock (Dialect.ofEngine e')
    change Agree _ _ (c.lock _)
    rw [hs, ht]
    exact law.layout.resolve_left hlayout s t

end Vocabulary.Respects

end SqlBuilder
