import SqlBuilder.Proofs.Session.Aliases
import SqlBuilder.Proofs.Session.Naming
import SqlBuilder.Proofs.Session.Overwriting
import SqlBuilder.Proofs.Session.Redrafting

/-!
Calls that declare an alias for a table, or write it in front of a column. What they write stays in the draft as long as
the builder does not overwrite, and stands in the projection in the end.
-/

namespace SqlBuilder

open Act Session Declare

variable {α : Type} {env : Surroundings} {s t u : Session} {size id : Nat} {b : Builder} {d d' d'' : Draft}
  {lead a : String} {role : AliasRole}

/-- What a builder puts in front of the names of tables. -/
def Builder.front (b : Builder) : String := b.lead.getD ""

/-! ### What stays in a draft -/

/-- The alias is still declared, for some table and in some pair. -/
structure Draft.Upholds (lead a : String) (d d' : Draft) : Prop where
  table : ∀ table, .text table ∈ d.tables.toList → d.aliasFor? table = some a →
    ∃ table, .text table ∈ d'.tables.toList ∧ d'.aliasFor? table = some a
  join : ∀ j ∈ d.joins.getD [], ∀ name, j.table = .tuple [name, .text (lead ++ a)] →
    ∃ j ∈ d'.joins.getD [], ∃ name, j.table = .tuple [name, .text (lead ++ a)]

theorem Draft.Upholds.of_eq (htables : d'.tables = d.tables) (haliases : d'.aliases = d.aliases)
    (hjoins : d'.joins = d.joins) : d.Upholds lead a d' where
  table table hmem ha := by
    unfold aliasFor? at ha ⊢
    rw [htables, haliases]
    exact ⟨table, hmem, ha⟩
  join j hj name htable := ⟨j, hjoins ▸ hj, name, htable⟩

/-- Nothing is taken out of the lists of the draft. -/
structure Draft.Retains (d d' : Draft) : Prop where
  selects : d.selects.getD [] ⊆ d'.selects.getD []
  wheres : d.wheres.getD [] ⊆ d'.wheres.getD []
  criteria : d.criteria.getD [] ⊆ d'.criteria.getD []
  joins : d.joins.getD [] ⊆ d'.joins.getD []
  groupBys : d.groupBys.getD [] ⊆ d'.groupBys.getD []
  orderBys : d.orderBys.getD [] ⊆ d'.orderBys.getD []

theorem Draft.Retains.refl (d : Draft) : d.Retains d :=
  ⟨List.Subset.refl _, List.Subset.refl _, List.Subset.refl _, List.Subset.refl _, List.Subset.refl _,
    List.Subset.refl _⟩

def AliasRole.isDeclaration : AliasRole → Bool
  | qualifier _ => false
  | _ => true

/-- What is written in one draft is written in the next one. -/
theorem Session.Writes.of_redrafted (h : s.Writes d lead a role) (hs : s.Has id b d)
    (hst : Redrafted s.builders.size b.draft d' s t) (hupholds : d.Upholds lead a d')
    (hretains : role.isDeclaration = true ∨ d.Retains d') : t.Writes d' lead a role := by
  cases h with
  | table htable ha =>
      obtain ⟨table, htable, ha⟩ := hupholds.table _ htable ha
      exact .table htable ha
  | join hj htable =>
      obtain ⟨j, hj, name, htable⟩ := hupholds.join _ hj _ htable
      exact .join hj htable
  | field hfield hname => exact .field ((hretains.resolve_left Bool.false_ne_true).selects hfield) hname
  | condition hc hcolumns hkey =>
      exact .condition ((hretains.resolve_left Bool.false_ne_true).wheres hc) hcolumns hkey
  | group hfield => exact .group ((hretains.resolve_left Bool.false_ne_true).groupBys hfield)
  | order hterm hfield => exact .order ((hretains.resolve_left Bool.false_ne_true).orderBys hterm) hfield
  | @comparison column j k own d'' c hj hk hown hc hcolumns hgroup hside =>
      have hretains := hretains.resolve_left Bool.false_ne_true
      have ht := hst k hown.lt own d'' hown
      by_cases hdraft : own.draft = b.draft
      · -- the conditions are in the draft of the builder itself
        have hsame : s.drafts[own.draft]? = some d := hdraft ▸ hs.draft
        cases hown.draft.symm.trans hsame
        rw [if_pos hdraft] at ht
        exact .comparison (hretains.joins hj) hk ht (hretains.criteria hc) hcolumns hgroup hside
      · rw [if_neg hdraft] at ht
        exact .comparison (hretains.joins hj) hk ht hc hcolumns hgroup hside

/-! ### The calls -/

/-- The call declares the alias, or writes it in front of a column. -/
inductive BuilderCall.Writes (b : Builder) (d : Draft) (a : String) : AliasRole → BuilderCall → Prop
  | nameTable {named : Value} {table : String} (hnamed : d.aliasedTable b.lead named = .ok (.text table))
      (htable : .text table ∈ d.tables.toList) : Writes b d a .table (.nameTable (.text a) named)
  | setTables {values : List Value} {table : String} (hentry : (.text table, .text a) ∈ Draft.mappedEntries values)
      (hagrees : Draft.Agrees b.lead d (b.front ++ table) a (Draft.mappedEntries values)) :
      Writes b d a .table (.setTables values)
  | join {name key operator operand kind : Value} :
      Writes b d a .join (.join (.tuple [name, .text a]) key operator operand kind)
  | joinUsing {name fields kind : Value} : Writes b d a .join (.joinUsing (.tuple [name, .text a]) fields kind)
  | select {fields : List Value} {column : String}
      (hfield : .text (a ++ "." ++ column) ∈ flattened fields ++ (Draft.mappedEntries fields).map (·.1)) :
      Writes b d a (.qualifier column) (.select fields)
  | condition {joiner column : String} {operator operand : Value} (hrole : b.role ≠ .group) :
      Writes b d a (.qualifier column) (.condition joiner (.text (a ++ "." ++ column)) operator operand)
  | groupBy {fields : Value} {column : String} (hfield : .text (a ++ "." ++ column) ∈ fields.items?.getD [fields]) :
      Writes b d a (.qualifier column) (.groupBy fields)
  | orderBy {fields direction : Value} {column : String}
      (hfield : .text (a ++ "." ++ column) ∈ (orderEntries fields direction).map (·.1)) :
      Writes b d a (.qualifier column) (.orderBy fields direction)
  | comparison {joined key operator operand kind : Value} {column : String}
      (hside : key = .text (a ++ "." ++ column) ∨ operand = .text (a ++ "." ++ column)) (hnull : key.isNull = false)
      (hcallable : key.isCallable = false)
      (hplain : b.overwriting.isTruthy = true → ∀ j ∈ d.joins.getD [], j.table.isCallable = false) :
      Writes b d a (.qualifier column) (.join joined key operator operand kind)

/-- What comes of a call that writes the alias: the draft of the builder changes, and nothing is taken out of it unless
the builder overwrites. -/
structure Session.Gains (b : Builder) (a : String) (role : AliasRole) (d d' : Draft) (s t : Session) : Prop where
  redrafted : Redrafted s.builders.size b.draft d' s t
  writes : t.Writes d' b.front a role
  upholds : d.Upholds b.front a d'
  retains : b.overwriting.isTruthy = false → d.Retains d'

theorem NameScope.addPrefix_qualified (lead : Option String) (a column : String) :
    NameScope.columns.addPrefix lead (.text (a ++ "." ++ column)) = .text (lead.getD "" ++ (a ++ "." ++ column)) := by
  have hdot : (a ++ "." ++ column).toList.contains '.' = true := by simp
  change NameScope.columns.addPrefixOne lead (.text (a ++ "." ++ column)) = _
  unfold addPrefixOne
  split
  · exact congrArg Value.text String.empty_append.symm
  · exact congrArg Value.text String.empty_append.symm
  · exact if_pos (by rw [hdot, Bool.or_true])

theorem NameScope.mem_addPrefix (lead : Option String) {fields : Value} {column : String}
    (h : .text (a ++ "." ++ column) ∈ fields.items?.getD [fields]) :
    .text (lead.getD "" ++ (a ++ "." ++ column)) ∈
      (NameScope.columns.addPrefix lead fields).items?.getD [NameScope.columns.addPrefix lead fields] := by
  rw [← addPrefix_qualified]
  cases fields with
  | list items => exact List.mem_map_of_mem (f := NameScope.columns.addPrefixOne lead) h
  | tuple items => exact List.mem_map_of_mem (f := NameScope.columns.addPrefixOne lead) h
  | text =>
      cases List.mem_singleton.1 h
      rw [addPrefix_qualified]
      exact List.mem_singleton_self _
  | _ => cases List.mem_singleton.1 h

namespace Draft

theorem mem_placed {isOverwriting : Bool} {declared : Option (List α)} {more : List α} {x : α} (h : x ∈ more) :
    x ∈ (placed isOverwriting declared more).getD [] := by
  unfold placed
  split
  · exact h
  · exact List.mem_append_right _ h

theorem subset_placed {isOverwriting : Bool} (h : isOverwriting = false) (declared : Option (List α)) (more : List α) :
    declared.getD [] ⊆ (placed isOverwriting declared more).getD [] := by
  unfold placed
  rw [h, if_neg Bool.false_ne_true]
  exact List.subset_append_left _ _

/-- A field is projected with the prefix, whether it has a name of its own or not. -/
theorem exists_fieldsOf (lead : Option String) {fields : List Value} {column : String}
    (h : .text (a ++ "." ++ column) ∈ flattened fields ++ (mappedEntries fields).map (·.1)) :
    ∃ field ∈ fieldsOf lead fields, field.name = .text (lead.getD "" ++ (a ++ "." ++ column)) := by
  unfold fieldsOf
  rcases List.mem_append.1 h with h | h
  · refine ⟨.plain (NameScope.columns.addPrefix lead (.text (a ++ "." ++ column))), ?_,
      NameScope.addPrefix_qualified ..⟩
    exact List.mem_flatMap.2 ⟨_, h, List.mem_singleton_self _⟩
  · obtain ⟨⟨name, shortName⟩, hentry, rfl⟩ := List.mem_map.1 h
    obtain ⟨v, hv, hentry⟩ := List.mem_flatMap.1 hentry
    refine ⟨.aliased (NameScope.columns.addPrefix lead (.text (a ++ "." ++ column))) shortName, ?_,
      NameScope.addPrefix_qualified ..⟩
    cases v with
    | map entries => exact List.mem_flatMap.2 ⟨_, hv, List.mem_map_of_mem hentry⟩
    | _ => cases hentry

end Draft

namespace BuilderCall

theorem exec_declaring_eq_ok {change : Act Unit} {v : Value} (h : (declaring id change).exec env s = (.ok v, t)) :
    change.exec env s = (.ok (), t) := by
  obtain ⟨⟨⟩, u, hchange, hvalue⟩ := exec_bind_eq_ok h
  obtain ⟨b, w, hbuilder, hpure⟩ := exec_bind_eq_ok hvalue
  cases hpure
  rw [(exec_builder_eq_ok hbuilder).2]
  exact hchange

theorem exec_changing_eq_ok (hs : s.Has id b d) {f : Builder → Draft → Draft} {v : Value}
    (h : (changing id f).exec env s = (.ok v, t)) : t = { s with drafts := s.drafts.modify b.draft (f b) } := by
  unfold changing at h
  rw [exec_bind_ok hs.exec_builder] at h
  exact (congrArg Prod.snd ((exec_modifyDraft hs.builder (f b)).symm.trans (exec_declaring_eq_ok h))).symm

end BuilderCall

namespace Session.Has

variable (hs : s.Has id b d) {v : Value}

include hs

/-! #### Tables -/

theorem gains_nameTable {named : Value} {table : String} (hlower : Text.lower a = a)
    (hnamed : d.aliasedTable b.lead named = .ok (.text table)) (htable : .text table ∈ d.tables.toList)
    (hcall : ((BuilderCall.nameTable (.text a) named).perform id).exec env s = (.ok v, t)) :
    ∃ d', s.Gains b a .table d d' t := by
  have hchange := BuilderCall.exec_declaring_eq_ok hcall
  rw [exec_bind_ok hs.exec_builder] at hchange
  obtain ⟨d', hd', rfl⟩ := exec_drafting_eq_ok hs.builder hchange
  rw [hs.draft, Option.getD_some] at hd'
  obtain ⟨key, name, hkey, hname, rfl⟩ := Draft.exec_nameTable_eq_ok hd'
  cases hkey.symm.trans hnamed
  cases hname
  rw [hlower] at hd' ⊢
  refine ⟨_, .modify _ hs _, ?_, ⟨fun other hother ha => ⟨other, hother, ?_⟩, fun j hj name h => ⟨j, hj, name, h⟩⟩,
    fun _ => { Draft.Retains.refl d with }⟩
  · exact .table htable (Draft.aliasFor?_insertEntry (fun _ => rfl) (.inl rfl))
  · exact Draft.aliasFor?_insertEntry (fun _ => rfl) (.inr ha)

/-- The tables of a mapping come in with their aliases. -/
theorem gains_setTables {values : List Value} {table : String} (hlower : Text.lower a = a)
    (hentry : (.text table, .text a) ∈ Draft.mappedEntries values)
    (hagrees : Draft.Agrees b.lead d (b.front ++ table) a (Draft.mappedEntries values)) {x : Unit}
    (hcall : (Declare.setTables id values).exec env s = (.ok x, t)) : ∃ d', s.Gains b a .table d d' t := by
  unfold Declare.setTables at hcall
  rw [exec_bind_ok hs.exec_builder] at hcall
  obtain ⟨d', hd', rfl⟩ := exec_drafting_eq_ok hs.builder hcall
  rw [hs.draft, Option.getD_some] at hd'
  obtain ⟨d₁, hnames, rfl⟩ := Draft.exec_declareTables_eq_ok (Draft.clearsTables_of_mem hentry) hd'
  obtain ⟨⟨aliases, rfl⟩, haliases⟩ := Draft.exec_nameEach_eq_ok hlower hnames
  have hnamed := haliases _ hagrees (.inl ⟨_, hentry, Draft.aliasedTable_text _ _ _⟩)
  have hmem : .text (b.front ++ table) ∈
      (declaredTables values).map (NameScope.tables.addPrefixOne b.lead) := by
    rw [Builder.front, ← NameScope.addPrefixOne_text]
    exact List.mem_map_of_mem (Draft.mem_declaredTables hentry)
  refine ⟨_, .modify _ hs _, ?_, ⟨fun _ _ _ => ⟨_, hmem, hnamed⟩, fun j hj name h => ⟨j, hj, name, h⟩⟩,
    fun _ => { Draft.Retains.refl d with }⟩
  exact .table hmem hnamed

/-! #### Fields and columns to group by -/

theorem gains_select {fields : List Value} {column : String}
    (hfield : .text (a ++ "." ++ column) ∈ flattened fields ++ (Draft.mappedEntries fields).map (·.1))
    (hcall : ((BuilderCall.select fields).perform id).exec env s = (.ok v, t)) :
    ∃ d', s.Gains b a (.qualifier column) d d' t := by
  cases BuilderCall.exec_changing_eq_ok hs hcall
  obtain ⟨field, hmem, hname⟩ := Draft.exists_fieldsOf b.lead hfield
  refine ⟨_, .modify _ hs _, ?_, .of_eq rfl rfl rfl, fun hoverwriting => { Draft.Retains.refl d with
    selects := Draft.subset_placed hoverwriting _ _ }⟩
  exact .field (Draft.mem_placed hmem) hname

theorem gains_groupBy {fields : Value} {column : String}
    (hfield : .text (a ++ "." ++ column) ∈ fields.items?.getD [fields])
    (hcall : ((BuilderCall.groupBy fields).perform id).exec env s = (.ok v, t)) :
    ∃ d', s.Gains b a (.qualifier column) d d' t := by
  cases BuilderCall.exec_changing_eq_ok hs hcall
  refine ⟨_, .modify _ hs _, ?_, .of_eq rfl rfl rfl, fun hoverwriting => { Draft.Retains.refl d with
    groupBys := Draft.subset_placed hoverwriting _ _ }⟩
  exact .group (Draft.mem_placed (NameScope.mem_addPrefix b.lead hfield))

/-! #### Conditions and orders -/

theorem gains_condition [env.Keeps (UntouchedBelow s.builders.size)] {joiner column : String} {operator operand : Value}
    (hrole : b.role ≠ .group)
    (hcall : ((BuilderCall.condition joiner (.text (a ++ "." ++ column)) operator operand).perform id).exec env s =
      (.ok v, t)) : ∃ d', s.Gains b a (.qualifier column) d d' t := by
  have hreplace := BuilderCall.exec_declaring_eq_ok hcall
  rw [hs.exec_condition hrole] at hreplace
  obtain ⟨xs, hspares, ht⟩ := EntryList.replace_eq_ok EntryList.lawful_wheres hs hs.lt hreplace
  refine ⟨_, ht, ?_, .of_eq rfl rfl rfl, fun hoverwriting => { Draft.Retains.refl d with
    wheres := fun x hx => List.mem_append_left _ (hspares.mem hoverwriting hx) }⟩
  exact .condition (List.mem_append_right _ (List.mem_singleton_self _)) rfl (NameScope.addPrefix_qualified ..)

/-- One more order behind the others. -/
theorem exec_orderByOne_eq_ok [env.Keeps (UntouchedBelow size)] (hid : id < size) {field direction : Value} {x : Unit}
    (h : (Declare.orderByOne id field direction).exec env s = (.ok x, t)) : ∃ xs term,
      term.field = NameScope.columns.addPrefix b.lead field ∧
        EntryList.orderBys.Spares b.overwriting.isTruthy (NameScope.columns.addPrefix b.lead field)
          (d.orderBys.getD []) xs ∧
        Redrafted size b.draft { d with orderBys := some (xs ++ [term]) } s t := by
  unfold Declare.orderByOne at h
  rw [exec_bind_ok (hs.exec_withLead _ _)] at h
  obtain ⟨⟨⟩, u, hdrop, h⟩ := exec_bind_eq_ok h
  obtain ⟨d', hd', hset, hspares⟩ := EntryList.dropReplaced_eq_ok EntryList.lawful_orderBys hs hid hdrop
  have hu : u.Has id b d' := hd'.has hid hs
  rw [exec_bind_ok (exec_modifyDraft hu.builder _)] at h
  have hv := hu.modify fun d => { d with orderBys := extended d.orderBys [] }
  have huv : Redrafted size b.draft _ u _ := .modify size hu fun d => { d with orderBys := extended d.orderBys [] }
  cases direction with
  | text direction =>
      have hpush := (exec_modifyDraft hv.builder _).symm.trans h
      cases congrArg Prod.snd hpush
      obtain ⟨term, hterm⟩ : ∃ term : OrderTerm,
        term = ⟨NameScope.columns.addPrefix b.lead field, Text.upper direction⟩ := ⟨_, rfl⟩
      have ht := (hd'.trans huv).trans (.modify size hv fun d =>
        EntryList.orderBys.set (extended (EntryList.orderBys.get d) [term]) d)
      have hopened : EntryList.orderBys.set (extended (extended d'.orderBys []) [term]) d' =
          EntryList.orderBys.set (some (EntryList.orderBys.listed d' ++ [term])) d := by
        rw [← hset]
        simp [extended, EntryList.listed, EntryList.orderBys]
      change Redrafted size b.draft (EntryList.orderBys.set (extended (extended d'.orderBys []) [term]) d') s _ at ht
      rw [hopened] at ht
      refine ⟨EntryList.orderBys.listed d', term, congrArg OrderTerm.field hterm, hspares, ?_⟩
      rw [← hterm]
      exact ht
  | _ => cases h

/-- The orders come in one by one. A field keeps its place or comes in anew. -/
theorem exec_orderByEach_eq_ok [env.Keeps (UntouchedBelow size)] (hid : id < size) {entries : List (Value × Value)}
    {x : Unit}
    (h : (forM entries fun entry => Declare.orderByOne id entry.1 entry.2 : Act Unit).exec env s = (.ok x, t)) :
    ∃ terms, Redrafted size b.draft { d with orderBys := terms } s t ∧
      (b.overwriting.isTruthy = false → d.orderBys.getD [] ⊆ terms.getD []) ∧
      ∀ name, (∃ entry ∈ entries, NameScope.columns.addPrefix b.lead entry.1 = .text name) ∨
          (∃ term ∈ d.orderBys.getD [], term.field = .text name) → ∃ term ∈ terms.getD [], term.field = .text name := by
  induction entries generalizing s d with
  | nil =>
      cases h
      refine ⟨d.orderBys, .of_untouched (refl_of _ _) hs, fun _ => List.Subset.refl _, fun name hname => ?_⟩
      refine hname.resolve_left ?_
      rintro ⟨entry, hentry, -⟩
      cases hentry
  | cons entry rest ih =>
      rw [List.forM_cons] at h
      obtain ⟨⟨⟩, u, hfirst, hrest⟩ := exec_bind_eq_ok h
      obtain ⟨xs, term, hfield, hspares, hu⟩ := hs.exec_orderByOne_eq_ok hid hfirst
      obtain ⟨terms, ht, hsubset, hnames⟩ := ih (hu.has hid hs) hrest
      refine ⟨terms, hu.trans ht, fun hoverwriting => ?_, fun name hname => hnames name ?_⟩
      · have hkept : d.orderBys.getD [] ⊆ xs ++ [term] :=
          List.Subset.trans (hspares.mem hoverwriting) (List.subset_append_left _ _)
        exact List.Subset.trans hkept (hsubset hoverwriting)
      · have hterm : term ∈ xs ++ [term] := List.mem_append_right _ (List.mem_singleton_self _)
        rcases hname with ⟨entry', hentry, hname⟩ | ⟨term', hmem, hname⟩
        · rcases List.mem_cons.1 hentry with rfl | hentry
          · exact .inr ⟨term, hterm, hfield.trans hname⟩
          · exact .inl ⟨entry', hentry, hname⟩
        · rcases hspares term' hmem with hkept | ⟨-, hsame | hcallable⟩
          · exact .inr ⟨term', List.mem_append_left _ hkept, hname⟩
          · -- the new order is by the same field
            change term'.field.same _ = true at hsame
            rw [hname] at hsame
            exact .inr ⟨term, hterm, hfield.trans (Value.eq_of_text_same hsame)⟩
          · change term'.field.isCallable = true at hcallable
            rw [hname] at hcallable
            cases hcallable

theorem gains_orderBy [env.Keeps (UntouchedBelow s.builders.size)] {fields direction : Value} {column : String}
    (hfield : .text (a ++ "." ++ column) ∈ (orderEntries fields direction).map (·.1))
    (hcall : ((BuilderCall.orderBy fields direction).perform id).exec env s = (.ok v, t)) :
    ∃ d', s.Gains b a (.qualifier column) d d' t := by
  have horders := BuilderCall.exec_declaring_eq_ok hcall
  obtain ⟨terms, ht, hsubset, hnames⟩ := hs.exec_orderByEach_eq_ok hs.lt horders
  obtain ⟨entry, hentry, hname⟩ := List.mem_map.1 hfield
  obtain ⟨term, hterm, hterms⟩ := hnames (b.front ++ (a ++ "." ++ column)) (.inl ⟨entry, hentry, by
    rw [hname, NameScope.addPrefix_qualified, Builder.front]⟩)
  exact ⟨_, ht, .order hterm hterms, .of_eq rfl rfl rfl, fun hoverwriting => { Draft.Retains.refl d with
    orderBys := hsubset hoverwriting }⟩

/-! #### Joins -/

theorem exec_pushJoin_eq_ok [env.Keeps (UntouchedBelow size)] (hid : id < size) {kind joined : Value}
    {builder : Option Nat} {x : Unit} (h : (Declare.pushJoin id kind joined builder).exec env s = (.ok x, t)) :
    ∃ xs,
      EntryList.joins.Spares b.overwriting.isTruthy (NameScope.tables.addPrefix b.lead joined) (d.joins.getD []) xs ∧
      Redrafted size b.draft
        { d with joins := some (xs ++ [⟨kind, NameScope.tables.addPrefix b.lead joined, builder⟩]) } s t := by
  unfold Declare.pushJoin at h
  rw [exec_bind_ok (hs.exec_withLead _ _)] at h
  exact EntryList.replace_eq_ok EntryList.lawful_joins hs hid h

theorem exec_pushJoin_scriptless
    (hplain : b.overwriting.isTruthy = true → ∀ j ∈ d.joins.getD [], j.table.isCallable = false) (kind joined : Value)
    (builder : Option Nat) : (Declare.pushJoin id kind joined builder).exec env s =
      (Declare.pushJoin id kind joined builder).exec (.scriptless 0) s := by
  have hdrop := EntryList.joins.exec_dropReplaced_scriptless env hs hplain
    (NameScope.tables.addPrefix b.lead joined)
  unfold Declare.pushJoin
  rw [exec_bind_ok (hs.exec_withLead _ _), exec_bind_ok (hs.exec_withLead _ _), exec_bind, exec_bind, hdrop]
  split
  · exact Unscripted.modifyDraft id _ _ _ _
  · rfl

omit hs in
/-- A builder comes up, and its draft changes. -/
theorem untouchedBelow_built (s : Session) (own : Builder) (f : Draft → Draft) :
    UntouchedBelow s.builders.size s { s with
      drafts := (s.drafts.push {}).modify s.drafts.size f
      builders := s.builders.push own } := by
  intro k hk b d h
  have hn : b.draft ≠ s.drafts.size := (Array.getElem?_eq_some_iff.1 h.draft).1.ne
  exact SparedBut.modify s.drafts.size { s with drafts := s.drafts.push {}, builders := s.builders.push own } f k b d hn
    ⟨getElem?_push_of_some h.builder, getElem?_push_of_some h.draft⟩

omit hs in
/-- The builder of a comparison has nothing else. -/
theorem exec_newBuilder_on (env : Surroundings) (s : Session) (key operator operand joiner : Value) : ∃ u w own,
    (Act.newBuilder .join).exec env s = (.ok s.builders.size, u) ∧
      (Declare.on s.builders.size key operator operand joiner).exec env u = (.ok (), w) ∧
      UntouchedBelow s.builders.size s w ∧ w.builders.size = s.builders.size + 1 ∧ own.draft = s.drafts.size ∧
      w.Has s.builders.size own { criteria := some [{
        key := NameScope.columns.addPrefix s.lead key, operator,
        operand := NameScope.columns.addPrefix s.lead operand, joiner, opensOn := true }] } := by
  have hown := built s ⟨.join, s.drafts.size, s.lead, .bool s.overwriting, .null, none⟩ rfl
  refine ⟨_, _, _, rfl, ?_, untouchedBelow_built s _ _, Array.size_push .., rfl, hown.modify fun d =>
    { d with criteria := extended d.criteria [{
      key := NameScope.columns.addPrefix s.lead key, operator,
      operand := NameScope.columns.addPrefix s.lead operand, joiner, opensOn := true }] }⟩
  unfold Declare.on
  rw [exec_bind_ok (hown.exec_withLead _ _), exec_bind_ok (hown.exec_withLead _ _)]
  exact exec_modifyDraft hown.builder _

omit hs in
/-- Whatever the conditions are, what was there before them is as it was when the join comes in. -/
theorem exec_join_eq_ok [env.Keeps (UntouchedBelow s.builders.size)] {joined key operator operand kind : Value}
    {x : Unit} (h : (Declare.join id joined key operator operand kind).exec env s = (.ok x, t)) :
    ∃ u builder, UntouchedBelow s.builders.size s u ∧
      (Declare.pushJoin id kind joined builder).exec env u = (.ok (), t) := by
  unfold Declare.join at h
  split at h
  · exact ⟨s, none, refl_of _ s, h⟩
  · split at h
    · obtain ⟨k, u, hnew, h⟩ := exec_bind_eq_ok h
      obtain ⟨⟨⟩, w, hcall, h⟩ := exec_bind_eq_ok h
      exact ⟨w, some k, trans_of (UntouchedBelow s.builders.size) ((Keeps.untouchedBelow.newBuilder _).of_exec hnew)
        ((Keeps.untouchedBelow.callOn _ _).of_exec hcall), h⟩
    · obtain ⟨u, w, own, hnew, hon, huntouched, -⟩ :=
        exec_newBuilder_on env s key operator operand (.text "AND")
      rw [exec_bind_ok hnew, exec_bind_ok hon] at h
      exact ⟨w, _, huntouched, h⟩

omit hs in
/-- A join takes nothing out but one that it takes the place of. -/
theorem upholds_joins {lead : String} {xs : List DraftJoin} {j : DraftJoin} {isOverwriting : Bool}
    (hspares : EntryList.joins.Spares isOverwriting j.table (d.joins.getD []) xs) :
    d.Upholds lead a { d with joins := some (xs ++ [j]) } where
  table table hmem ha := ⟨table, hmem, ha⟩
  join old hold name htable := by
    rcases hspares old hold with hkept | ⟨-, hsame | hcallable⟩
    · exact ⟨old, List.mem_append_left _ hkept, name, htable⟩
    · -- what takes its place is a pair with the same alias
      change old.table.same j.table = true at hsame
      rw [htable] at hsame
      obtain ⟨name', hpair⟩ := Value.eq_of_pair_same hsame
      exact ⟨j, List.mem_append_right _ (List.mem_singleton_self _), name', hpair⟩
    · change old.table.isCallable = true at hcallable
      rw [htable] at hcallable
      cases hcallable

/-- A pair comes in as the table of a join. -/
theorem gains_pushJoin [env.Keeps (UntouchedBelow s.builders.size)] (hsu : UntouchedBelow s.builders.size s u)
    {name kind : Value} {builder : Option Nat} {x : Unit}
    (h : (Declare.pushJoin id kind (.tuple [name, .text a]) builder).exec env u = (.ok x, t)) :
    ∃ d', s.Gains b a .join d d' t := by
  obtain ⟨xs, hspares, ht⟩ := (hsu id hs.lt b d hs).exec_pushJoin_eq_ok hs.lt h
  have hpair : NameScope.tables.addPrefix b.lead (.tuple [name, .text a]) =
      .tuple [NameScope.tables.addPrefixOne b.lead name, .text (b.front ++ a)] := by
    rw [Builder.front, ← NameScope.addPrefixOne_text]
    rfl
  refine ⟨_, (Redrafted.of_untouched hsu hs).trans ht, ?_, upholds_joins hspares, fun hoverwriting =>
    { Draft.Retains.refl d with joins := fun x hx => List.mem_append_left _ (hspares.mem hoverwriting hx) }⟩
  exact .join (List.mem_append_right _ (List.mem_singleton_self _)) hpair

theorem gains_join [env.Keeps (UntouchedBelow s.builders.size)] {name key operator operand kind : Value}
    (hcall : ((BuilderCall.join (.tuple [name, .text a]) key operator operand kind).perform id).exec env s =
      (.ok v, t)) : ∃ d', s.Gains b a .join d d' t := by
  obtain ⟨u, builder, hsu, hpush⟩ := exec_join_eq_ok (BuilderCall.exec_declaring_eq_ok hcall)
  exact hs.gains_pushJoin hsu hpush

theorem gains_joinUsing [env.Keeps (UntouchedBelow s.builders.size)] {name fields kind : Value}
    (hcall : ((BuilderCall.joinUsing (.tuple [name, .text a]) fields kind).perform id).exec env s = (.ok v, t)) :
    ∃ d', s.Gains b a .join d d' t := by
  have hjoin := BuilderCall.exec_declaring_eq_ok hcall
  unfold Declare.joinUsing at hjoin
  obtain ⟨k, u, hnew, hrest⟩ := exec_bind_eq_ok hjoin
  cases hnew
  obtain ⟨⟨⟩, w, husing, hpush⟩ := exec_bind_eq_ok hrest
  have hown := built s ⟨.join, s.drafts.size, s.lead, .bool s.overwriting, .null, none⟩ rfl
  change (Act.builder s.builders.size >>= _).exec env _ = _ at husing
  rw [exec_bind_ok hown.exec_builder] at husing
  cases congrArg Prod.snd ((exec_modifyDraft hown.builder _).symm.trans husing)
  exact hs.gains_pushJoin (untouchedBelow_built s _ _) hpush

/-- A comparison on either side of which the column stands comes in with a builder of its own. -/
theorem gains_comparison {joined key operator operand kind : Value} {column : String} (hlead : s.lead = b.lead)
    (hside : key = .text (a ++ "." ++ column) ∨ operand = .text (a ++ "." ++ column)) (hnull : key.isNull = false)
    (hcallable : key.isCallable = false)
    (hplain : b.overwriting.isTruthy = true → ∀ j ∈ d.joins.getD [], j.table.isCallable = false)
    (hcall : ((BuilderCall.join joined key operator operand kind).perform id).exec env s = (.ok v, t)) :
    ∃ d', s.Gains b a (.qualifier column) d d' t := by
  have hjoin := BuilderCall.exec_declaring_eq_ok hcall
  unfold Declare.join at hjoin
  rw [hnull, if_neg Bool.false_ne_true] at hjoin
  have hid := hs.lt
  obtain ⟨u, w, own, hnew, hon, hsw, hsize, hdraft, hown⟩ :=
    exec_newBuilder_on env s key operator operand (.text "AND")
  rw [exec_bind_ok hnew] at hjoin
  simp only [hcallable, Bool.false_eq_true, if_false] at hjoin
  rw [exec_bind_ok hon] at hjoin
  have hw : w.Has id b d := hsw id hid b d hs
  rw [hw.exec_pushJoin_scriptless hplain] at hjoin
  obtain ⟨xs, hspares, ht⟩ := hw.exec_pushJoin_eq_ok (by omega : id < w.builders.size) hjoin
  have hn : own.draft ≠ b.draft := by
    rw [hdraft]
    exact (Array.getElem?_eq_some_iff.1 hs.draft).1.ne'
  have hgroup : ((NameScope.columns.addPrefix s.lead key).isCallable &&
      (NameScope.columns.addPrefix s.lead operand).isNull) = false := by
    rcases hside with rfl | rfl
    · rw [NameScope.addPrefix_qualified]
      rfl
    · rw [NameScope.addPrefix_qualified]
      exact Bool.and_false _
  refine ⟨_, (Redrafted.of_untouched hsw hs).trans (ht.mono (by omega)), ?_, upholds_joins hspares,
    fun hoverwriting => { Draft.Retains.refl d with
      joins := fun x hx => List.mem_append_left _ (hspares.mem hoverwriting hx) }⟩
  refine .comparison (List.mem_append_right _ (List.mem_singleton_self _)) rfl (ht.other (by omega) hn hown)
    (List.mem_singleton_self _) rfl hgroup ?_
  rw [hlead]
  rcases hside with rfl | rfl
  · exact .inl (NameScope.addPrefix_qualified ..)
  · exact .inr (NameScope.addPrefix_qualified ..)

end Session.Has

/-- A call that writes the alias changes the draft of its builder, and nothing else that was there before. -/
theorem BuilderCall.Writes.gains [env.Keeps (UntouchedBelow s.builders.size)] {c : BuilderCall} {v : Value}
    (h : Writes b d a role c) (hlower : Text.lower a = a) (hs : s.Has id b d) (hlead : s.lead = b.lead)
    (hcall : (c.perform id).exec env s = (.ok v, t)) : ∃ d', s.Gains b a role d d' t := by
  cases h with
  | nameTable hnamed htable => exact hs.gains_nameTable hlower hnamed htable hcall
  | setTables hentry hagrees =>
      exact hs.gains_setTables hlower hentry hagrees (exec_declaring_eq_ok hcall)
  | join => exact hs.gains_join hcall
  | joinUsing => exact hs.gains_joinUsing hcall
  | select hfield => exact hs.gains_select hfield hcall
  | condition hrole => exact hs.gains_condition hrole hcall
  | groupBy hfield => exact hs.gains_groupBy hfield hcall
  | orderBy hfield => exact hs.gains_orderBy hfield hcall
  | comparison hside hnull hcallable hplain =>
      exact hs.gains_comparison hlead hside hnull hcallable hplain hcall

/-! ### Runs -/

/-- The builder is as before, and what its draft writes for the alias is still written. -/
def Session.Holds (lead a : String) (id : Nat) (s t : Session) : Prop :=
  ∀ b d, s.Has id b d → ∃ d', t.Has id b d' ∧ ∀ role, s.Writes d lead a role → t.Writes d' lead a role

/-- A change of the draft that takes nothing out. -/
theorem Session.Holds.of_redrafted (hs : s.Has id b d) (h : Redrafted s.builders.size b.draft d' s t)
    (hupholds : d.Upholds lead a d') (hretains : d.Retains d') : Holds lead a id s t := by
  intro b' d'' hs'
  cases hs'.builder.symm.trans hs.builder
  cases hs'.draft.symm.trans hs.draft
  exact ⟨d', h.has hs.lt hs, fun role hwrites => hwrites.of_redrafted hs h hupholds (.inr hretains)⟩

theorem Session.Holds.of_changing (hs : s.Has id b d) {f : Builder → Draft → Draft} {v : Value}
    (hcall : (BuilderCall.changing id f).exec env s = (.ok v, t)) (hupholds : d.Upholds lead a (f b d))
    (hretains : d.Retains (f b d)) : Holds lead a id s t := by
  cases BuilderCall.exec_changing_eq_ok hs hcall
  exact .of_redrafted hs (.modify _ hs _) hupholds hretains

/-- Calls on a builder that write an alias, with what they write, the latest first. In between anything may happen that
holds on to it. On a builder that overwrites a column may give way to what comes later, but a declaration does not. -/
inductive Aliased (env : Surroundings) (id : Nat) (b : Builder) (a : String) : Session → List AliasRole → Prop where
  | start {s : Session} {d : Draft} (hs : s.Has id b d) : Aliased env id b a s []
  | opened {s t : Session} {parent : Nat} {kind : BuilderKind} {values : List Value} {table : String}
      (hb : t.builders[id]? = some b) (hentry : (.text table, .text a) ∈ Draft.mappedEntries values)
      (hagrees : Draft.Agrees b.lead {} (b.front ++ table) a (Draft.mappedEntries values))
      (hcall : ((BuilderCall.table values).perform parent).exec env s = (.ok (.builder kind id), t)) :
      Aliased env id b a t [.table]
  | between {s t : Session} {roles : List AliasRole} (h : Aliased env id b a s roles)
      (hbetween : Holds b.front a id s t) : Aliased env id b a t roles
  | called {s t : Session} {roles more : List AliasRole} {c : BuilderCall} {v : Value}
      (h : Aliased env id b a s roles) (hne : more ≠ [])
      (hwrites : ∀ role ∈ more, BuilderCall.Writes b (s.declared id) a role c) (hlead : s.lead = b.lead)
      (hscripts : Confined (UntouchedBelow s.builders.size) env (c.perform id) s)
      (hcall : (c.perform id).exec env s = (.ok v, t)) :
      Aliased env id b a t (more ++ if b.overwriting.isTruthy then roles.filter AliasRole.isDeclaration else roles)

namespace Aliased

variable {roles : List AliasRole}

/-- A builder that comes up for tables declares their aliases. -/
theorem writes_opened {parent : Nat} {kind : BuilderKind} {values : List Value} {table : String}
    (hlower : Text.lower a = a) (hb : t.builders[id]? = some b)
    (hentry : (.text table, .text a) ∈ Draft.mappedEntries values)
    (hagrees : Draft.Agrees b.lead {} (b.front ++ table) a (Draft.mappedEntries values))
    (hcall : ((BuilderCall.table values).perform parent).exec env s = (.ok (.builder kind id), t)) :
    ∃ d, t.Has id b d ∧ t.Writes d b.front a .table := by
  obtain ⟨c, u, htable, hvalue⟩ := exec_bind_eq_ok hcall
  obtain ⟨own, w, hbuilder, hpure⟩ := exec_bind_eq_ok hvalue
  cases hpure
  rw [(exec_builder_eq_ok hbuilder).2] at hb ⊢
  unfold Declare.table at htable
  rw [Draft.clearsTables_of_mem hentry, if_neg Bool.false_ne_true] at htable
  obtain ⟨fresh, w, hnew, hrest⟩ := exec_bind_eq_ok htable
  obtain ⟨⟨⟩, w', hset, hfresh⟩ := exec_bind_eq_ok hrest
  cases hfresh
  obtain ⟨b', rfl, rfl, hdraft, -⟩ := Declare.exec_newQuery_eq_ok hnew
  have hw : Session.Has { s with drafts := s.drafts.push {}, builders := s.builders.push b' } s.builders.size b' {} :=
    ⟨Array.getElem?_push_size, by rw [hdraft]; exact Array.getElem?_push_size⟩
  have hsame : b' = b := by
    obtain ⟨_, -, _, rfl, -⟩ := Declare.exec_setTables_eq_ok hset
    exact Option.some.inj (hw.builder.symm.trans hb)
  subst hsame
  obtain ⟨d, hgains⟩ := hw.gains_setTables hlower hentry hagrees hset
  exact ⟨d, hgains.redrafted.has (Nat.lt_of_lt_of_eq (Nat.lt_succ_self _) (Array.size_push ..).symm) hw, hgains.writes⟩

/-- Whatever the calls write is in the draft. -/
theorem writes (h : Aliased env id b a s roles) (hlower : Text.lower a = a) :
    ∃ d, s.Has id b d ∧ ∀ role ∈ roles, s.Writes d b.front a role := by
  induction h with
  | start hs => exact ⟨_, hs, fun _ hrole => nomatch hrole⟩
  | opened hb hentry hagrees hcall =>
      obtain ⟨d, ht, hwrites⟩ := writes_opened hlower hb hentry hagrees hcall
      refine ⟨d, ht, fun role hrole => ?_⟩
      rw [List.mem_singleton.1 hrole]
      exact hwrites
  | between _ hbetween ih =>
      obtain ⟨d, hs, hwrites⟩ := ih
      obtain ⟨d', ht, hholds⟩ := hbetween b d hs
      exact ⟨d', ht, fun role hrole => hholds role (hwrites role hrole)⟩
  | @called s t roles more c v _ hne hnew hlead hscripts hcall ih =>
      obtain ⟨d, hs, hwrites⟩ := ih
      rw [hs.declared_eq] at hnew
      rw [← hscripts] at hcall
      obtain ⟨first, hfirst⟩ := List.exists_mem_of_ne_nil more hne
      obtain ⟨d', hgains⟩ := (hnew first hfirst).gains hlower hs hlead hcall
      have ht : t.Has id b d' := hgains.redrafted.has hs.lt hs
      refine ⟨d', ht, fun role hrole => ?_⟩
      rcases List.mem_append.1 hrole with hrole | hrole
      · obtain ⟨d'', hgains'⟩ := (hnew role hrole).gains hlower hs hlead hcall
        cases ht.draft.symm.trans (hgains'.redrafted.has hs.lt hs).draft
        exact hgains'.writes
      · cases hoverwriting : b.overwriting.isTruthy with
        | true =>
            rw [hoverwriting, if_pos rfl] at hrole
            obtain ⟨hrole, hdeclaration⟩ := List.mem_filter.1 hrole
            exact (hwrites role hrole).of_redrafted hs hgains.redrafted hgains.upholds (.inl hdeclaration)
        | false =>
            rw [hoverwriting, if_neg Bool.false_ne_true] at hrole
            exact (hwrites role hrole).of_redrafted hs hgains.redrafted hgains.upholds
              (.inr (hgains.retains hoverwriting))

end Aliased

/-- The alias of a table stands in the projection wherever it is declared or used, with the prefix of the builder in
front of it, but for the place behind its own table. So a column is qualified with the alias of a joined table as it
stands there, unless the prefix makes two parts of it, and with the alias of another table only without a prefix. -/
theorem compile_select_aliased {roles : List AliasRole} {q : Query} (h : Aliased env id b a s roles)
    (ha : Text.IsWord a) (hlower : Text.lower a = a)
    (hscripts : Confined (UntouchedBelow s.builders.size) env (compile id .select) s)
    (hcompile : (compile id .select).exec env s = (.ok q, t)) :
    (∃ d, s.Has id b d ∧ (∀ role ∈ roles, s.Writes d b.front a role) ∧
      ∀ role, s.Writes d b.front a role → role.IsTight → ('.' ∈ b.front.toList → '*' ∉ b.front.toList) →
        role.Stands q s.driver.engine b.front a) ∧
    ∀ column,
      (AliasRole.join.identifier b.front a = (AliasRole.qualifier column).identifier b.front a ↔
        '.' ∉ b.front.toList) ∧
      ('.' ∉ b.front.toList →
        (∃ behind, (AliasRole.qualifier column).name (.ofEngine s.driver.engine) b.front a =
          AliasRole.join.name (.ofEngine s.driver.engine) b.front a ++ "." ++ behind) ∧
        (AliasRole.table.identifier b.front a = (AliasRole.qualifier column).identifier b.front a ↔ b.front = "")) := by
  obtain ⟨d, hs, hwrites⟩ := h.writes hlower
  refine ⟨⟨d, hs, hwrites, fun role hrole htight hstar => ⟨?_, fun hmark => ?_⟩⟩,
    fun column => ⟨?_, fun hdot => ⟨?_, ?_⟩⟩⟩
  · exact hs.shows hscripts hcompile hrole hlower (AliasRole.solid ha hstar htight)
  · exact AliasRole.reads ha hmark role
  · exact AliasRole.identifier_join_eq_iff ha column
  · exact ⟨_, AliasRole.name_qualifier ha _ hdot column⟩
  · exact AliasRole.identifier_table_eq_iff ha hdot column

def Session.led (lead : String) (table : Value) : Session :=
  { Session.ofDraft .mysql (.over table) with
    lead := some lead
    builders := #[⟨.query, 0, some lead, .bool false, .null, none⟩] }

def Session.following (s : Session) (calls : List BuilderCall) : Session :=
  calls.foldl (fun s c => ((c.perform 0).exec (.scriptless 1) s).2) s

theorem Session.exec_following (s : Session) (c : BuilderCall)
    (h : (((c.perform 0).exec (.scriptless 1) s).1.toOption.map fun _ => ()) = some ()) :
    ∃ v, (c.perform 0).exec (.scriptless 1) s = (.ok v, s.following [c]) := by
  obtain ⟨v, hv, -⟩ := exec_eq_ok _ _ s (fun _ => ()) h
  exact ⟨v, hv⟩

/-- An alias with a prefix behind its table and in front of a column, with a number of rows declared in between. -/
theorem compile_select_aliased_table : ∃ s t q,
    Aliased (.scriptless 1) 0 ⟨.query, 0, some "cb_", .bool false, .null, none⟩ "x" s [.qualifier "id", .table] ∧
      (compile 0 .select).exec (.scriptless 1) s = (.ok q, t) ∧ q.Shows "AS `x`" ∧ q.Shows "`cb_x`.`id`" := by
  have hlower : Text.lower "x" = "x" := by decide +kernel
  have hs : (Session.led "cb_" (.text "cb_people")).Has 0 ⟨.query, 0, some "cb_", .bool false, .null, none⟩
    (.over (.text "cb_people")) := ⟨rfl, rfl⟩
  have hwrites : BuilderCall.Writes ⟨.query, 0, some "cb_", .bool false, .null, none⟩ (.over (.text "cb_people")) "x"
      .table (.nameTable (.text "x") .null) := .nameTable rfl (List.mem_singleton_self _)
  obtain ⟨_, hnamed⟩ := Session.exec_following (.led "cb_" (.text "cb_people")) (.nameTable (.text "x") .null)
    (by decide +kernel)
  obtain ⟨_, hlimited⟩ := Session.exec_following ((Session.led "cb_" (.text "cb_people")).following
    [.nameTable (.text "x") .null]) (.limit (.int 3)) (by decide +kernel)
  obtain ⟨_, hconditioned⟩ := Session.exec_following ((Session.led "cb_" (.text "cb_people")).following
    [.nameTable (.text "x") .null, .limit (.int 3)]) (.condition "AND" (.text "x.id") (.text "=") (.int 1))
    (by decide +kernel)
  obtain ⟨d, hgains⟩ := hwrites.gains hlower hs rfl hnamed
  have hholds : Session.Holds "cb_" "x" 0 _ _ := .of_changing (hgains.redrafted.has (by decide) hs) hlimited
    (.of_eq rfl rfl rfl) { Draft.Retains.refl d with }
  have haliased := ((Aliased.start hs).called (List.cons_ne_nil _ []) (List.forall_mem_singleton.2 hwrites) rfl
    (.of_keeps _ _) hnamed).between hholds |>.called (List.cons_ne_nil (AliasRole.qualifier "id") [])
      (List.forall_mem_singleton.2 (.condition (by decide))) rfl (.of_keeps _ _) hconditioned
  obtain ⟨q, hq, -⟩ := exec_eq_ok (compile 0 .select) (.scriptless 1) ((Session.led "cb_" (.text "cb_people")).following
    [.nameTable (.text "x") .null, .limit (.int 3), .condition "AND" (.text "x.id") (.text "=") (.int 1)])
    (fun q => q.sql) (y := "SELECT * FROM `cb_people` AS `x` WHERE `cb_x`.`id` = ? LIMIT 3") (by decide +kernel)
  obtain ⟨⟨d', -, hroles, hstands⟩, -⟩ := compile_select_aliased haliased (by decide) hlower (.of_keeps _ _) hq
  refine ⟨_, _, q, haliased, hq, ?_, ?_⟩
  · exact (hstands .table (hroles _ (.tail _ (.head _))) trivial (by decide)).1
  · exact (hstands (.qualifier "id") (hroles _ (.head _)) (fun h => absurd h (by decide +kernel)) (by decide)).1

/-- The column is qualified with another name than the one that stands behind the table. -/
theorem not_compile_select_aliased :
    ((compile 0 .select).exec (.scriptless 1) ((Session.led "cb_" (.text "cb_people")).following
      [.nameTable (.text "x") .null, .condition "AND" (.text "x.id") (.text "=") (.int 1)])).1.toOption.map (·.sql) =
        some "SELECT * FROM `cb_people` AS `x` WHERE `cb_x`.`id` = ?" ∧
    (Dialect.ofEngine .mysql).readName "`x`".toList = some (.plain (.quoted "x".toList)) ∧
    (Dialect.ofEngine .mysql).readPart "`cb_x`.`id`".toList = some (.quoted "cb_x".toList, ".`id`".toList) := by
  exact ⟨by decide +kernel, by decide +kernel, by decide +kernel⟩

end SqlBuilder
