import SqlBuilder.Proofs.Statement.Noninterference

/-!
The same statement for two engines. The values are bound in the same places, or the statement fails in the same way for
both; and where the dialects differ by no more than the marks around identifiers, so do the texts.
-/

namespace SqlBuilder

/-! ### Nothing exchanged -/

/-- Everything stays what it is. -/
def Refit.same : Refit where
  fragment s bindings := (s, bindings)
  bound v := v
  idle v := v

namespace Refit

@[simp] theorem same_name (v : Value) : same.name v = v := by
  rcases v.raw_cases with ⟨s, bindings, rfl⟩ | ⟨content, bindings, rfl, h⟩ | h
  · rfl
  · exact same.name_of_not_text h bindings
  · exact same.name_of_not_raw h

@[simp] theorem map_same_name (names : List Value) : names.map same.name = names := List.map_id'' same_name names

@[simp] theorem same_item (v : Value) : same.item v = v := by
  unfold item
  split
  · exact same_name v
  · rfl

@[simp] theorem same_operand (isBound : Bool) (key operator v : Value) : same.operand isBound key operator v = v := by
  cases hitems : v.items? with
  | none =>
      rw [same.operand_of_items?_none hitems, same_name]
      simp [same]
  | some items =>
      cases v with
      | list items => exact congrArg Value.list (List.map_id'' same_item items)
      | tuple items => exact congrArg Value.tuple (List.map_id'' same_item items)
      | _ => exact absurd hitems (by simp [Value.items?])

@[simp] theorem same_cells (entries : List (Value × Value)) : same.cells entries = entries :=
  List.map_id'' (fun cell => Prod.ext (same_name cell.1) (same_item cell.2)) entries

@[simp] theorem same_data (v : Value) : same.data v = v := by
  cases v with
  | map entries => exact congrArg Value.map (same_cells entries)
  | _ => rfl

@[simp] theorem same_columns (v : Value) : same.columns v = v := by
  cases v with
  | list names => exact congrArg Value.list (map_same_name names)
  | tuple names => exact congrArg Value.tuple (map_same_name names)
  | set names => exact congrArg Value.set (map_same_name names)
  | map entries =>
      have hcell : ∀ cell : Value × Value, (same.name cell.1, cell.2) = cell := fun cell =>
        Prod.ext (same_name cell.1) rfl
      exact congrArg Value.map (List.map_id'' hcell entries)
  | _ => rfl

@[simp] theorem same_joined (v : Value) : same.joined v = v := by
  cases v with
  | tuple names => exact congrArg Value.tuple (map_same_name names)
  | raw content bindings => exact same_name (.raw content bindings)
  | _ => rfl

end Refit

mutual

@[simp] theorem Condition.refit_same (isBound : Bool) : ∀ c : Condition, c.refit .same isBound = c
  | .test joint key operator operand => by rw [Condition.refit, Refit.same_name, Refit.same_operand]
  | .group joint members => by rw [Condition.refit, Condition.refitAll_same true members]
  | .columns joint names => by rw [Condition.refit, Refit.map_same_name]

@[simp] theorem Condition.refitAll_same (isBound : Bool) :
    ∀ conditions : List Condition, Condition.refitAll .same isBound conditions = conditions
  | [] => rfl
  | c :: rest => by rw [Condition.refitAll, Condition.refit_same isBound c, Condition.refitAll_same isBound rest]

end

@[simp] theorem Field.refit_same (field : Field) : field.refit .same = field := by
  cases field <;> simp [Field.refit]

@[simp] theorem Field.map_refit_same (fields : List Field) : fields.map (Field.refit .same) = fields :=
  List.map_id'' refit_same fields

@[simp] theorem Join.refit_same (j : Join) : j.refit .same = j := by
  obtain ⟨kind, table, conditions⟩ := j
  cases conditions <;> simp [Join.refit]

@[simp] theorem OrderTerm.refit_same (term : OrderTerm) : term.refit .same = term := by
  simp [OrderTerm.refit]

@[simp] theorem OrderTerm.map_refit_same (terms : List OrderTerm) : terms.map (OrderTerm.refit .same) = terms :=
  List.map_id'' refit_same terms

@[simp] theorem Clauses.refit_same (c : Clauses) : c.refit .same = c := by
  have hjoins : c.joins.map (Join.refit .same) = c.joins := List.map_id'' Join.refit_same c.joins
  have hduplicate : c.onDuplicate.map Refit.same.cells = c.onDuplicate := by
    cases c.onDuplicate <;> simp
  simp [Clauses.refit, hjoins, hduplicate]

mutual

@[simp] theorem SelectTree.refit_same : ∀ tree : SelectTree, tree.refit .same = tree
  | .mk clauses members => by rw [SelectTree.refit, Clauses.refit_same, SelectTree.refitMembers_same members]

@[simp] theorem SelectTree.refitMembers_same :
    ∀ members : List (UnionKind × SelectTree), SelectTree.refitMembers .same members = members
  | [] => rfl
  | (kind, member) :: rest => by
      rw [SelectTree.refitMembers, SelectTree.refit_same member, SelectTree.refitMembers_same rest]

end

@[simp] theorem StatementTree.refit_same (t : StatementTree) : t.refit .same = t := by
  cases t <;> simp [StatementTree.refit]

/-! ### Values -/

/-- Both fragments have these values. -/
def Binds (vs : List Value) (q q' : Query) : Prop := q.bindings = vs ∧ q'.bindings = vs

/-- Where a value is bound does not depend on the engine. -/
theorem respects_binds (e e' : Engine) : Vocabulary.everything.Respects .same false e e' Binds where
  text _ _ := ⟨rfl, rfl⟩
  quoted _ _ := ⟨rfl, rfl⟩
  layout := .inr fun _ _ => ⟨rfl, rfl⟩
  append := by
    rintro vs ws p p' q q' ⟨rfl, hp⟩ ⟨rfl, hq⟩
    exact ⟨rfl, by rw [Query.bindings_append, hp, hq]⟩
  strip h := h
  fragment _ _ _ := ⟨rfl, rfl⟩
  bare _ _ _ := ⟨rfl, rfl⟩
  bound v hv := by
    rw [operandOf, show Refit.same.bound v = v from rfl, hv]
    exact ⟨rfl, rfl⟩
  bound_items _ hv := hv
  idle_isRaw _ hv := hv
  idle_items _ hv := hv

/-! ### Clauses by themselves -/

section Clauses

open Vocabulary

variable (e e' : Engine)

theorem Condition.binds_pieces (qualifier : Option String) (isBound isFirst : Bool) (c : Condition) :
    Agree (Parts Binds (c.values false isBound)) (c.pieces (.ofEngine e) qualifier isBound isFirst)
      (c.pieces (.ofEngine e') qualifier isBound isFirst) := by
  have hq : ∀ q ∈ qualifier, Text.Avoids everything.special q := fun q _ => avoids_everything q
  simpa using (respects_binds e e').pieces hq isBound isFirst c (c.fits_everything isBound)

theorem Join.binds_tableClause (table : Value) :
    Agree (Binds (joinedValues false table)) (unlessCallable table (Join.tableClause (.ofEngine e) table))
      (unlessCallable table (Join.tableClause (.ofEngine e') table)) := by
  have hjoined : everything.Joined table :=
    (name_everything table).joined fun _ _ name _ => bareName_everything name
  refine (respects_binds e e').unlessCallable rfl joinedValues_of_isCallable fun _ => ?_
  simpa using (respects_binds e e').joinedTable hjoined

theorem binds_tableClause (aliases : List (Value × String)) (table : Value) :
    Agree (Binds table.fragmentBindings) (unlessCallable table (tableClause (.ofEngine e) aliases table))
      (unlessCallable table (tableClause (.ofEngine e') aliases table)) := by
  refine (respects_binds e e').unlessCallable rfl Value.fragmentBindings_of_isCallable fun hcallable => ?_
  simpa using (respects_binds e e').tableClause (fun entry _ => avoids_everything entry.2) (name_everything table)
    hcallable

theorem binds_tables (aliases : List (Value × String)) (tables : List Value) :
    Agree (Parts Binds (tables.flatMap Value.fragmentBindings))
      (tables.mapM fun table => unlessCallable table (tableClause (.ofEngine e) aliases table))
      (tables.mapM fun table => unlessCallable table (tableClause (.ofEngine e') aliases table)) := by
  simpa using (respects_binds e e').tables (fun entry (_ : entry ∈ aliases) => avoids_everything entry.2)
    fun table (_ : table ∈ tables) => name_everything table

theorem binds_groupClause (names : List Value) :
    Agree (Binds (names.flatMap Value.fragmentBindings)) (groupClause (.ofEngine e) names)
      (groupClause (.ofEngine e') names) := by
  simpa using (respects_binds e e').groupClause fun name (_ : name ∈ names) => name_everything name

theorem OrderTerm.binds_clause (terms : List OrderTerm) :
    Agree (Binds (terms.flatMap fun term => term.field.fragmentBindings)) (OrderTerm.clause (.ofEngine e) terms)
      (OrderTerm.clause (.ofEngine e') terms) := by
  have hfits : ∀ term ∈ terms, term.Fits everything := fun term _ =>
    ⟨name_everything term.field, avoids_everything term.direction⟩
  simpa using (respects_binds e e').orderClause hfits

theorem binds_assignments (entries : List (Value × Value)) :
    Agree (Binds (assignedValues false entries)) (assignments (.ofEngine e) entries)
      (assignments (.ofEngine e') entries) := by
  simpa using (respects_binds e e').assignments (cells_everything entries)

variable {e e'} {c : Clauses}

theorem Clauses.binds_distinctClause (h : e' = e ∨ c.distinctOn = []) :
    Agree (Binds (c.distinctOn.flatMap Field.bindings)) (c.distinctClause (.ofEngine e))
      (c.distinctClause (.ofEngine e')) := by
  simpa using (respects_binds e e').distinctClause c.fits_everything.distinctOn h

theorem Clauses.binds_select (h : c.Portable e e') :
    Agree (Binds (c.projectionValues false)) (c.select (.ofEngine e)) (c.select (.ofEngine e')) := by
  simpa using (respects_binds e e').selectClauses c.fits_everything h

end Clauses

/-! ### Texts -/

def Query.translated (φ : Char → Char) (q : Query) : Query := ⟨q.sql.map φ, q.bindings⟩

namespace Query

variable (φ : Char → Char)

theorem translated_append (p q : Query) : (p ++ q).translated φ = p.translated φ ++ q.translated φ := by
  refine ext ?_ rfl
  apply String.ext
  simp [translated, String.toList_map]

theorem translated_fixed {s : String} (h : ∀ c ∈ s.toList, φ c = c) (bindings : List Value) :
    (⟨s, bindings⟩ : Query).translated φ = ⟨s, bindings⟩ := by
  refine ext ?_ rfl
  apply String.ext
  rw [translated, String.toList_map, List.map_congr_left h, List.map_id']

theorem translated_id (q : Query) : q.translated id = q := translated_fixed id (fun _ _ => rfl) q.bindings

/-- An exchange that leaves the blanks alone. -/
theorem translated_strip (hblank : ∀ c, Text.isBlank (φ c) = Text.isBlank c) (q : Query) :
    q.strip.translated φ = (q.translated φ).strip := by
  have hleft : ∀ cs : List Char, Text.stripLeftChars (cs.map φ) = (Text.stripLeftChars cs).map φ := by
    intro cs
    rw [Text.stripLeftChars, Text.stripLeftChars, List.dropWhile_map, show Text.isBlank ∘ φ = Text.isBlank from
      funext hblank]
  refine ext ?_ rfl
  apply String.ext
  simp [translated, strip, Text.strip, Text.stripChars, String.toList_map, hleft, ← List.map_reverse]

end Query

/-- The second fragment is the first one with its characters exchanged, and the values are the given ones. -/
def Translates (φ : Char → Char) (vs : List Value) (q q' : Query) : Prop := q.bindings = vs ∧ q' = q.translated φ

/-- Engines with the same layout differ by an exchange of characters that takes the marks of the one to those of the
other, as long as the statement holds no other character that is exchanged. -/
theorem respects_translation {V : Vocabulary} {e e' : Engine} {φ : Char → Char} (hlayout : e.SameLayout e')
    (hopen : φ (Dialect.ofEngine e).openMark = (Dialect.ofEngine e').openMark)
    (hclose : φ (Dialect.ofEngine e).closeMark = (Dialect.ofEngine e').closeMark)
    (hfixed : ∀ c ∉ V.special, φ c = c) (hplaceholder : φ '?' = '?')
    (hblank : ∀ c, Text.isBlank (φ c) = Text.isBlank c)
    (hfragment : ∀ s bindings, V.fragment s bindings → Text.Avoids V.special s)
    (hbare : ∀ s bindings, V.bare s bindings → Text.Avoids V.special s) :
    V.Respects .same false e e' (Translates φ) := by
  have hwritten : ∀ s, Text.Avoids V.special s → ∀ bindings, Translates φ bindings ⟨s, bindings⟩ ⟨s, bindings⟩ :=
    fun s hs bindings => ⟨rfl, (Query.translated_fixed φ (fun c hc => hfixed c (hs c hc)) bindings).symm⟩
  constructor
  case text => exact fun s hs => hwritten s hs []
  case quoted =>
    intro part hpart
    refine ⟨rfl, Query.ext (String.ext ?_) rfl⟩
    have hmap : part.map φ = part := by
      rw [List.map_congr_left fun c hc => hfixed c (hpart c hc), List.map_id']
    simp [Query.plain, Query.translated, String.toList_map, hopen, hclose, hmap]
  case layout => exact .inl hlayout
  case append =>
    rintro vs ws p _ q _ ⟨rfl, rfl⟩ ⟨rfl, rfl⟩
    exact ⟨rfl, (Query.translated_append φ p q).symm⟩
  case strip =>
    rintro vs q _ ⟨rfl, rfl⟩
    exact ⟨rfl, (Query.translated_strip φ hblank q).symm⟩
  case fragment => exact fun s bindings hs => hwritten s (hfragment s bindings hs) bindings
  case bare => exact fun s bindings hs => hwritten s (hbare s bindings hs) []
  case bound =>
    intro v hv
    rw [operandOf, show Refit.same.bound v = v from rfl, hv]
    refine ⟨rfl, (Query.translated_fixed φ ?_ [v]).symm⟩
    simpa using hplaceholder
  case bound_items => exact fun _ hv => hv
  case idle_isRaw => exact fun _ hv => hv
  case idle_items => exact fun _ hv => hv

/-- Neither a backtick nor a double quote stands in any text. -/
def Vocabulary.unquoted : Vocabulary where
  special := ['`', '"']
  special_subset := List.forall_mem_cons.2 ⟨by decide, List.forall_mem_singleton.2 (by decide)⟩
  fragment s _ := Text.Avoids ['`', '"'] s
  bare s _ := Text.Avoids ['`', '"'] s

def doubleQuoted (c : Char) : Char := if c = '`' then '"' else c

namespace StatementTree

variable {t : StatementTree}

/-- The values are bound in the same places, or the statement fails in the same way. -/
theorem binds_render {e e' : Engine} (h : t.Portable e e') :
    Agree (fun q q' => q'.bindings = q.bindings) (t.render (.ofEngine e)) (t.render (.ofEngine e')) := by
  have hbinds := (respects_binds e e').statement t t.fits_everything h (.inr fun _ _ => ⟨rfl, rfl⟩)
  rw [t.refit_same] at hbinds
  exact hbinds.mono fun q q' hq => hq.2.trans hq.1.symm

/-- SQLite is written as MySQL is, but for the verb of an insertion that skips duplicates. -/
theorem render_sqlite (h : t.Portable .mysql .sqlite) (hverb : t.SameVerb .mysql .sqlite) :
    t.render .sqlite = t.render .mysql := by
  have hlaw : Vocabulary.everything.Respects .same false .mysql .sqlite (Translates id) :=
    respects_translation (by decide) rfl rfl (fun _ _ => rfl) rfl (fun _ => rfl)
      (fun s _ _ => Vocabulary.avoids_everything s) fun s _ _ => Vocabulary.avoids_everything s
  have hagree := hlaw.statement t t.fits_everything h (.inl hverb)
  rw [t.refit_same] at hagree
  exact (hagree.mono fun q q' hq => (hq.2.trans (q.translated_id)).symm).eq.symm

/-- PostgreSQL is written as MySQL is, with double quotes in place of backticks, but for an insertion that skips
duplicates. -/
theorem render_postgresql (hfits : t.Fits .unquoted) (h : t.Portable .mysql .postgresql)
    (hverb : t.SameVerb .mysql .postgresql) :
    Agree (fun q q' => q' = q.translated doubleQuoted) (t.render .mysql) (t.render .postgresql) := by
  have hlaw : Vocabulary.unquoted.Respects .same false .mysql .postgresql (Translates doubleQuoted) := by
    refine respects_translation (by decide) rfl rfl (fun c hc => ?_) rfl (fun c => ?_) (fun _ _ hs => hs)
      fun _ _ hs => hs
    · refine if_neg ?_
      rintro rfl
      exact hc List.mem_cons_self
    · unfold doubleQuoted
      split
      · rename_i heq
        rw [heq]
        decide
      · rfl
  have hagree := hlaw.statement t hfits h (.inl hverb)
  rw [t.refit_same] at hagree
  exact hagree.mono fun q q' hq => hq.2

end StatementTree

end SqlBuilder
