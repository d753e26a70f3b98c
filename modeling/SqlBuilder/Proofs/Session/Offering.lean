import SqlBuilder.Proofs.Keys
import SqlBuilder.Proofs.Session.Aliasing
import SqlBuilder.Proofs.Session.Summarizing

/-!
Aggregates over columns that have been selected. A builder remembers the names that its calls for columns have passed,
those of the last call alone if it overwrites. An aggregate goes by them: over another column it is refused before
anything else happens.
-/

namespace SqlBuilder

open Act Session

variable {env : Surroundings} {s t u : Session} {id : Nat} {b : Builder} {d : Draft}

/-! ### Columns -/

/-- The prefix does not go in front of the name: there is none, or the name has no qualifier. -/
def BearsNone (lead : Option String) (name : String) : Prop := lead.getD "" = "" ∨ '.' ∉ name.toList

/-- A column as a builder with a prefix selects it. -/
def Field.column (lead : Option String) (name : String) : Field :=
  .plain (NameScope.columns.addPrefixOne lead (.text name))

section Column

variable {lead : Option String} {f name : String}

theorem NameScope.addPrefixOne_column (lead : Option String) (name : String) :
    columns.addPrefixOne lead (.text name) = .text (if '.' ∈ name.toList then lead.getD "" ++ name else name) := by
  have hnone : (if '.' ∈ name.toList then "" ++ name else name) = name := by
    rw [String.empty_append, ite_self]
  unfold addPrefixOne
  split
  · exact congrArg Value.text hnone.symm
  · exact congrArg Value.text hnone.symm
  · rename_i front _
    by_cases hdot : '.' ∈ name.toList
    · rw [if_pos hdot]
      exact if_pos (by simpa using hdot)
    · rw [if_neg hdot]
      exact if_neg (by simpa using hdot)

/-- A name that bears no prefix is selected as itself, and nothing else is selected as it. -/
theorem Field.column_eq_iff (hf : BearsNone lead f) : (Field.column lead name).toValue = .text f ↔ name = f := by
  change NameScope.columns.addPrefixOne lead (.text name) = .text f ↔ _
  rw [NameScope.addPrefixOne_column, Value.text.injEq]
  obtain hempty | hplain := hf
  · rw [hempty, String.empty_append, ite_self]
  · by_cases hdot : '.' ∈ name.toList
    · rw [if_pos hdot]
      refine iff_of_false ?_ ?_
      · rintro rfl
        exact hplain (by simp [hdot])
      · rintro rfl
        exact hplain hdot
    · rw [if_neg hdot]

/-- A name that bears no prefix is among the selected ones if it has been passed. -/
theorem isAmong_columns_iff (hf : BearsNone lead f) (names : List String) :
    (Value.text f).isAmong ((names.map (Field.column lead)).map Field.toValue) = true ↔ f ∈ names := by
  unfold Value.isAmong
  rw [List.any_eq_true]
  constructor
  · rintro ⟨v, hv, halike⟩
    rw [List.map_map] at hv
    obtain ⟨name, hname, rfl⟩ := List.mem_map.1 hv
    rw [← (Field.column_eq_iff hf).1 ((Value.isExact_text f _).1 halike)]
    exact hname
  · intro hmem
    refine ⟨.text f, ?_, (Value.isExact_text f).alike_self⟩
    rw [List.map_map]
    exact List.mem_map.2 ⟨f, hmem, (Field.column_eq_iff hf).2 rfl⟩

theorem Draft.fieldsOf_names {values : List Value} {names : List String} (h : flattened values = names.map .text) :
    fieldsOf lead values = names.map (Field.column lead) := by
  unfold fieldsOf
  rw [h, List.flatMap_map]
  exact List.flatMap_pure_eq_map (Field.column lead) names

end Column

/-! ### Calls for columns -/

namespace Session

/-- The builder keeps its prefix and its mode, and what it selects. -/
def SameSelection (id : Nat) (s t : Session) : Prop :=
  ∀ b d, s.Has id b d → ∃ b' d', t.Has id b' d' ∧ b'.lead = b.lead ∧ b'.overwriting = b.overwriting ∧
    d'.selects = d.selects

/-- The names that the calls for columns have passed to a builder since a state, call by call. In between anything may
happen that leaves what the builder selects alone. -/
inductive Selected (env : Surroundings) (id : Nat) (s : Session) : Session → List (List String) → Prop where
  | start : Selected env id s s []
  | between {t u : Session} {calls : List (List String)} (h : Selected env id s t calls)
      (hsame : SameSelection id t u) : Selected env id s u calls
  | called {t u : Session} {calls : List (List String)} {values : List Value} {names : List String} {v : Value}
      (h : Selected env id s t calls) (hnames : flattened values = names.map .text)
      (hcall : ((BuilderCall.select values).perform id).exec env t = (.ok v, u)) :
      Selected env id s u (calls ++ [names])

/-- The names that count: those of all calls, or those of the last one if each call replaces the ones before. -/
def selectedNames (overwriting : Bool) (calls : List (List String)) : List String :=
  if overwriting then calls.getLast?.getD [] else calls.flatten

theorem selectedNames_concat (overwriting : Bool) (calls : List (List String)) (names : List String) :
    selectedNames overwriting (calls ++ [names]) =
      if overwriting then names else selectedNames overwriting calls ++ names := by
  unfold selectedNames
  cases overwriting with
  | true => simp
  | false => simp

theorem placed_columns {overwriting : Bool} {lead : Option String} {selects : Option (List Field)}
    {names names' : List String} (h : selects.getD [] = names.map (Field.column lead)) :
    (Draft.placed overwriting selects (names'.map (Field.column lead))).getD [] =
      (if overwriting then names' else names ++ names').map (Field.column lead) := by
  cases overwriting with
  | true => rfl
  | false =>
      change selects.getD [] ++ names'.map (Field.column lead) = _
      rw [h, if_neg Bool.false_ne_true, List.map_append]

/-- Behind the calls the builder selects the columns of the names that count. -/
theorem Selected.has {calls : List (List String)} (h : Selected env id s t calls) (hs : s.Has id b d)
    (hempty : d.selects.getD [] = []) : ∃ b' d', t.Has id b' d' ∧ b'.lead = b.lead ∧ b'.overwriting = b.overwriting ∧
      d'.selects.getD [] = (selectedNames b.overwriting.isTruthy calls).map (Field.column b.lead) := by
  induction h with
  | start =>
      refine ⟨b, d, hs, rfl, rfl, ?_⟩
      rw [hempty]
      cases b.overwriting.isTruthy <;> rfl
  | between _ hsame ih =>
      obtain ⟨b', d', ht, hlead, hmode, hselects⟩ := ih
      obtain ⟨b'', d'', hu, hlead', hmode', hselects'⟩ := hsame b' d' ht
      exact ⟨b'', d'', hu, hlead'.trans hlead, hmode'.trans hmode, by rw [hselects', hselects]⟩
  | called _ hnames hcall ih =>
      obtain ⟨b', d', ht, hlead, hmode, hselects⟩ := ih
      obtain rfl := BuilderCall.exec_changing_eq_ok ht hcall
      refine ⟨b', _, ht.modify _, hlead, hmode, ?_⟩
      change (Draft.placed b'.overwriting.isTruthy d'.selects (fieldsOf b'.lead _)).getD [] = _
      rw [Draft.fieldsOf_names hnames, hlead, hmode, placed_columns hselects, selectedNames_concat]

end Session

/-! ### Aggregates -/

namespace Draft

variable {lead : Option String} {f : String} {names : List String}

theorem offers_iff (hselects : d.selects.getD [] = names.map (Field.column lead)) (hf : BearsNone lead f) :
    d.Offers (.text f) ↔ f = "*" ∨ names = [] ∨ f ∈ names := by
  have hall : (Value.text f).same (.text "*") = true ↔ f = "*" := beq_iff_eq
  unfold Offers
  rw [hall, hselects, List.map_eq_nil_iff, isAmong_columns_iff hf]

end Draft

namespace Session

variable {c : BuilderCall} {function f name : String} {calls : List (List String)}

/-- The aggregate is not refused for its column. It fails without a table, and otherwise has the function run over the
name of the column as it is. -/
structure Admits (env : Surroundings) (id : Nat) (c : BuilderCall) (content : String) (s : Session) : Prop where
  barred : (s.declared id).tables.toList = [] → (c.perform id).exec env s = (.error (.sql .noTable), s)
  run : (s.declared id).tables.toList ≠ [] → (c.perform id).exec env s =
    (Execute.expressionRows id (.raw (.text content) []) >>= c.summarized).exec env s

/-- The builder has a statement that it can select at once, and whose rows nothing shapes. -/
structure PlainQuery (env : Surroundings) (id : Nat) (P Q : Session → Prop) (s : Session) (b : Builder)
    (content : String) (q : Query) : Prop where
  linked : s.Linked
  builder : s.builders[id]? = some b
  tables : (s.declared id).tables.toList ≠ []
  plain : ¬(s.declared id).Shaped
  own : Footing env id s P
  swapped : Footing env id (s.swapping b.draft (.raw (.text content) [])) Q
  compares : (s.footprint id).Compares env P Q s (s.swapping b.draft (.raw (.text content) []))
  compiles : ((compile id .select).exec env s).1 = .ok q

/-- The statement of the builder has been executed with the function in place of its columns. The name is one of
them. -/
def AnsweredOver (env : Surroundings) (id : Nat) (c : BuilderCall) (s : Session) (b : Builder) (f content : String)
    (q : Query) : Prop :=
  ∃ clauses t q', (Resolve.selectClauses (env.depth - 1) b.draft).exec env s = (.ok clauses, t) ∧
    .plain (.text f) ∈ clauses.selects ∧ clauses.SwapsTo (.ofEngine s.driver.engine) content q q' ∧
    Answered env c s q' ((c.perform id).exec env s).1 ((c.perform id).exec env s).2

theorem admits_of_offers (hc : c.summary? = some (function, .text f)) (hb : s.builders[id]? = some b)
    (hname : (Dialect.ofEngine s.driver.engine).identifier (.text "field") = .ok name)
    (hoffers : (s.declared id).Offers (.text f)) :
    s.Admits env id c (Text.upper function ++ "(" ++ f ++ ") AS " ++ name) where
  barred htables := BuilderCall.exec_summary_of_error hc hb (Draft.summary_of_no_table htables hoffers _ _)
  run htables := BuilderCall.exec_summary_of_ok hc hb (Draft.summary_of_offers htables hoffers rfl hname function)

/-- What a builder selects is in its own statement. -/
theorem PlainQuery.answeredOver {P Q : Session → Prop} {content : String} {q : Query}
    (h : s.PlainQuery env id P Q b content q) (hadmits : s.Admits env id c content)
    (hf : .plain (.text f) ∈ (s.declared id).selects.getD []) : s.AnsweredOver env id c b f content q := by
  rcases hcompile : (compile id .select).exec env s with ⟨made, t⟩
  obtain rfl : made = .ok q := (congrArg Prod.fst hcompile).symm.trans h.compiles
  obtain ⟨-, clauses, q', u, hclauses, hswaps, hexecuted, hrows⟩ := Execute.exec_expressionRows_plain h.linked h.builder
    (Draft.shapesRows_eq_false_iff.2 h.plain) h.own h.swapped h.compares hcompile
  refine ⟨clauses, t, q', hclauses, ?_, hswaps, answered_of_rows hexecuted hrows (hadmits.run h.tables)⟩
  obtain ⟨_, _, _, _, _, _, -, -, -, rfl⟩ := Resolve.exec_selectClauses_eq_ok hclauses
  rw [declared_eq h.builder] at hf
  exact hf

/-- A column that has been selected can have a function over it. Behind any calls for columns on a builder that has
selected nothing before, every aggregate goes by the names that the calls have passed, or the last of them alone if the
builder overwrites. One that is among them is not refused, and where nothing shapes the rows the statement that is
executed is the one of the builder with the function over that very name in place of its columns. If there are any, and
the name is neither among them nor stands for all columns, the aggregate fails for it before anything else happens.

Names in front of which the builder puts its prefix are left out. -/
theorem summary_selected (hs : s.Has id b d) (hempty : d.selects.getD [] = [])
    (hselected : Selected env id s t calls) (hf : BearsNone b.lead f)
    (hc : c.summary? = some (function, .text f))
    (hname : (Dialect.ofEngine t.driver.engine).identifier (.text "field") = .ok name) :
    (f = "*" ∨ selectedNames b.overwriting.isTruthy calls = [] ∨ f ∈ selectedNames b.overwriting.isTruthy calls →
      t.Admits env id c (Text.upper function ++ "(" ++ f ++ ") AS " ++ name)) ∧
    (f ∈ selectedNames b.overwriting.isTruthy calls →
      ∀ P Q b' q, t.PlainQuery env id P Q b' (Text.upper function ++ "(" ++ f ++ ") AS " ++ name) q →
        t.AnsweredOver env id c b' f (Text.upper function ++ "(" ++ f ++ ") AS " ++ name) q) ∧
    (selectedNames b.overwriting.isTruthy calls ≠ [] → f ≠ "*" → f ∉ selectedNames b.overwriting.isTruthy calls →
      (c.perform id).exec env t = (.error (.sql (.columnNotSelected f)), t)) := by
  obtain ⟨b', d', ht, -, -, hselects⟩ := hselected.has hs hempty
  rw [← ht.declared_eq] at hselects
  have hoffers := Draft.offers_iff hselects hf
  have hadmits : _ → t.Admits env id c _ := fun h => admits_of_offers hc ht.builder hname (hoffers.2 h)
  refine ⟨hadmits, fun hmem P Q b'' q hplain => ?_, fun hsome hall hother => ?_⟩
  · refine hplain.answeredOver (hadmits (.inr (.inr hmem))) ?_
    rw [hselects, ← (Field.column_eq_iff hf).2 rfl]
    exact List.mem_map_of_mem hmem
  · have hrefused : ¬(t.declared id).Offers (.text f) := fun h => by
      obtain h | h | h := hoffers.1 h
      · exact hall h
      · exact hsome h
      · exact hother h
    exact BuilderCall.exec_summary_of_error hc ht.builder (Draft.summary_of_not_offers hrefused rfl _ _)

def showing (columns : List String) : Draft :=
  { Draft.over (.text "cb_people") with selects := some (columns.map fun column => .plain (.text column)) }

/-- A builder that puts a prefix in front of its tables. -/
def prefixed (overwriting : Bool) (columns : List String) : Session :=
  { Session.ofDraft .mysql (showing columns) with
    lead := some "cb_"
    overwriting
    builders := #[⟨.query, 0, some "cb_", .bool overwriting, .null, none⟩] }

def picked : Session := prefixed false ["age", "cb_pets.id"]

theorem selected_picked : Selected (.comparing "age" (.int 18)) 0 (prefixed false []) picked
    [["age"], ["pets.id"]] := by
  have hfirst : ((BuilderCall.select [.text "age"]).perform 0).exec (.comparing "age" (.int 18)) (prefixed false []) =
      (.ok (.builder .query 0), prefixed false ["age"]) := rfl
  have hsecond : ((BuilderCall.select [.list [.text "pets.id"]]).perform 0).exec
      (.comparing "age" (.int 18)) (prefixed false ["age"]) = (.ok (.builder .query 0), picked) := rfl
  have hselected : Selected (.comparing "age" (.int 18)) 0 (prefixed false []) (prefixed false ["age"])
      ([] ++ [["age"]]) := .called .start rfl hfirst
  exact .called hselected rfl hsecond

def pickedClauses : Clauses :=
  Resolve.withPages (Resolve.opening (showing ["age", "cb_pets.id"])) (showing ["age", "cb_pets.id"])

def summing : Value := .raw (.text "SUM(age) AS `field`") []

theorem plainQuery_picked : PlainQuery (.comparing "age" (.int 18)) 0 picked.Grown (picked.swapping 0 summing).Grown
    picked ⟨.query, 0, some "cb_", .bool false, .null, none⟩ "SUM(age) AS `field`"
    ⟨"SELECT `age`, `cb_pets`.`id` FROM `cb_people`", []⟩ := by
  have hlinked : picked.Linked := linked_single (d := showing ["age", "cb_pets.id"]) rfl rfl rfl rfl rfl
  have htree : (StatementRequest.select.resolve 0).exec (.comparing "age" (.int 18)) picked =
      (.ok (.select (.mk pickedClauses [])), picked) := rfl
  have hrender : (StatementTree.select (.mk pickedClauses [])).render (.ofEngine .mysql) =
      .ok ⟨"SELECT `age`, `cb_pets`.`id` FROM `cb_people`", []⟩ :=
    StatementTree.render_eq_of_sql (by decide +kernel)
  exact {
    linked := hlinked
    builder := rfl
    tables := by decide
    plain := fun h => Bool.false_ne_true ((Draft.shapesRows_iff _).2 h)
    own := Grown.footing (hookless_of_nil rfl) rfl rfl nofun
    swapped := Grown.footing (hookless_of_nil rfl) rfl rfl nofun
    compares := compares_grown (hlinked.closed_footprint Nat.one_pos).kept
      (fun script depth => Resolve.settled_members_comparing rfl script depth) _ _
    compiles := (congrArg Prod.fst (exec_compile htree)).trans hrender }

/-- A column of the first call is summed up, and one that has not been selected is refused. -/
theorem summary_selected_age :
    Executed picked ⟨"SELECT SUM(age) AS `field` FROM `cb_people`", []⟩
      (((BuilderCall.aggregate .sum (.text "age")).perform 0).exec (.comparing "age" (.int 18)) picked).2 ∧
    ((BuilderCall.aggregate .sum (.text "city")).perform 0).exec (.comparing "age" (.int 18)) picked =
      (.error (.sql (.columnNotSelected "city")), picked) := by
  have hs : (prefixed false []).Has 0 ⟨.query, 0, some "cb_", .bool false, .null, none⟩ (showing []) := ⟨rfl, rfl⟩
  have hcontent : "SUM(age) AS `field`" = Text.upper "sum" ++ "(" ++ "age" ++ ") AS " ++ "`field`" := by
    decide +kernel
  have hname : (Dialect.ofEngine picked.driver.engine).identifier (.text "field") = .ok "`field`" := rfl
  obtain ⟨-, hover, -⟩ := summary_selected (f := "age") (c := .aggregate .sum (.text "age")) hs rfl selected_picked
    (.inr (by decide)) rfl hname
  obtain ⟨-, -, hrefused⟩ := summary_selected (f := "city") (c := .aggregate .sum (.text "city")) hs rfl
    selected_picked (.inr (by decide)) rfl hname
  refine ⟨?_, hrefused (by decide) (by decide) (by decide)⟩
  obtain ⟨clauses, t, q', hclauses, -, hswaps, hanswered⟩ :=
    hover (by decide) _ _ _ _ (hcontent ▸ plainQuery_picked)
  obtain rfl : pickedClauses = clauses := Except.ok.inj (congrArg Prod.fst hclauses)
  have hsums : (StatementTree.select (.mk (pickedClauses.swapped summing) [])).render (.ofEngine .mysql) =
      .ok ⟨"SELECT SUM(age) AS `field` FROM `cb_people`", []⟩ :=
    StatementTree.render_eq_of_sql (by decide +kernel)
  have hswapped : (StatementTree.select (.mk (pickedClauses.swapped summing) [])).render (.ofEngine .mysql) =
      .ok q' := by
    have hselect := hswaps.swapped
    change (pickedClauses.swapped (.raw (.text (Text.upper "sum" ++ "(" ++ "age" ++ ") AS " ++ "`field`")) [])).select
      _ = _ at hselect
    rw [← hcontent] at hselect
    unfold StatementTree.render SelectTree.render
    exact congrArg (· >>= _) hselect
  obtain rfl := Except.ok.inj (hswapped.symm.trans hsums)
  exact hanswered.executed

/-- One more call for columns. -/
theorem Selected.select {overwriting : Bool} {calls : List (List String)} (columns : List String) (name : String)
    (h : Selected (.scriptless 2) 0 s (prefixed overwriting columns) calls) :
    Selected (.scriptless 2) 0 s (((BuilderCall.select [.text name]).perform 0).exec (.scriptless 2)
      (prefixed overwriting columns)).2 (calls ++ [[name]]) :=
  .called (v := .builder .query 0) h rfl rfl

/-- A call on a builder that overwrites drops the columns of the calls before, so that they are refused. What stands for
all columns is never refused, although no call has passed it. And a name with a qualifier is looked for without the
prefix that it has been selected with. -/
theorem not_summary_selected :
    (Selected (.scriptless 2) 0 (prefixed true []) (prefixed true ["name"]) [["age"], ["name"]] ∧
      ((BuilderCall.aggregate .sum (.text "age")).perform 0).exec (.scriptless 2) (prefixed true ["name"]) =
        (.error (.sql (.columnNotSelected "age")), prefixed true ["name"])) ∧
    (Selected (.scriptless 2) 0 (prefixed false []) (prefixed false ["age"]) [["age"]] ∧
      (((BuilderCall.count (.text "*")).perform 0).exec (.scriptless 2) (prefixed false ["age"])).1.toOption.bind
        (·.asInt?) = some 0) ∧
    (Selected (.scriptless 2) 0 (prefixed false []) (prefixed false ["cb_people.age"]) [["people.age"]] ∧
      ((BuilderCall.aggregate .sum (.text "people.age")).perform 0).exec (.scriptless 2)
        (prefixed false ["cb_people.age"]) =
          (.error (.sql (.columnNotSelected "people.age")), prefixed false ["cb_people.age"])) := by
  have hstart : ∀ overwriting, Selected (.scriptless 2) 0 (prefixed overwriting []) (prefixed overwriting []) [] :=
    fun _ => .start
  refine ⟨⟨?_, rfl⟩, ⟨?_, ?_⟩, ?_, rfl⟩
  · exact Selected.select ["age"] "name" ((hstart true).select [] "age")
  · exact (hstart false).select [] "age"
  · decide +kernel
  · exact (hstart false).select [] "people.age"

end Session

end SqlBuilder
