import SqlBuilder.Proofs.Session.Engines
import SqlBuilder.Proofs.Session.Footing
import SqlBuilder.Proofs.Session.Limit
import SqlBuilder.Proofs.Session.Pending
import SqlBuilder.Proofs.Session.Swapping
import SqlBuilder.Proofs.Session.Untouched

/-!
The statements of aggregates. A builder whose draft shapes its rows has its statement put between parentheses, and the
function is selected over it. Any other builder selects the function in place of its projection and without its order.
In a session without hooks and for a builder without a pending result that is the one statement that is executed.
-/

namespace SqlBuilder

open Act Session

variable {α : Type} {P Q : Session → Prop} {env : Surroundings} {s t u : Session} {id : Nat} {b : Builder} {q : Query}

/-! ### An expression over a fragment of SQL -/

/-- The names that aggregates give end with the mark of the engine. -/
theorem Dialect.exists_identifier (engine : Engine) {word : String} (hword : word = "field" ∨ word = "count") :
    ∃ name, (ofEngine engine).identifier (.text word) = .ok name ∧ Text.Ends name := by
  obtain rfl | rfl := hword
  · cases engine
    all_goals exact ⟨_, rfl, by decide +kernel⟩
  · cases engine
    all_goals exact ⟨_, rfl, by decide +kernel⟩

/-- The expression is selected from the fragment, and nothing else is declared. -/
def Clauses.wrapping (fragment content : String) (bindings : List Value) : Clauses :=
  Resolve.opening (.wrapping (.raw (.text fragment) bindings) (.raw (.text content) []))

/-- The statement that selects the expression over the statement of a builder. -/
def Query.wrapped (content shortName : String) (q : Query) : Query :=
  ⟨"SELECT " ++ content ++ " FROM (" ++ q.sql ++ ") AS " ++ shortName, q.bindings⟩

section Wrapping

variable {fragment content shortName : String} {bindings : List Value}

theorem Clauses.select_wrapping (d : Dialect) (hfragment : Text.Solid fragment) (hcontent : Text.Solid content) :
    (wrapping fragment content bindings).select d = .ok ⟨"SELECT " ++ content ++ " FROM " ++ fragment, bindings⟩ := by
  have hparts : (wrapping fragment content bindings).selectParts d = .ok [.plain content, .plain "FROM",
      ⟨fragment, bindings ++ []⟩, .plain "", .plain "", .plain "", .plain "", .plain ""] := rfl
  have hdistinct : (wrapping fragment content bindings).distinctClause d = .ok (.plain "") := rfl
  have htop : (wrapping fragment content bindings).top d = .ok "" := by
    unfold Clauses.top
    split <;> rfl
  have hpages : (wrapping fragment content bindings).pages d = .ok [.plain "", .plain ""] := by
    unfold Clauses.pages
    split <;> rfl
  have hlock : (wrapping fragment content bindings).lock d = .ok "" := by
    unfold Clauses.lock
    split <;> rfl
  have htext : Text.concatenate ["SELECT", "", "", content, "FROM", fragment, "", "", "", "", "", "", "", ""] =
      "SELECT " ++ content ++ " FROM " ++ fragment := by
    have hselect : Text.strip "SELECT" = "SELECT" := by decide
    have hfrom : Text.strip "FROM" = "FROM" := by decide
    have hwords : Text.words ["SELECT", "", "", content, "FROM", fragment, "", "", "", "", "", "", "", ""] =
        ["SELECT", content, "FROM", fragment] := by
      simp [Text.words, Text.strip_empty, hselect, hfrom, hcontent.strip_eq, hfragment.strip_eq, hcontent.ne_empty,
        hfragment.ne_empty]
    have hverb : "SELECT " = "SELECT" ++ " " := rfl
    have hsource : " FROM " = " " ++ ("FROM" ++ " ") := rfl
    rw [Text.concatenate_eq_joined, hwords, hverb, hsource]
    simp only [Text.joined_cons, Text.spaced, String.append_assoc, String.append_empty]
  rw [List.append_nil] at hparts
  rw [Clauses.select_eq, hdistinct, hparts, htop, hpages, hlock]
  change Except.ok (Query.mk (Text.concatenate _) (bindings ++ [])) = _
  rw [List.append_nil]
  exact congrArg (fun sql => Except.ok (Query.mk sql bindings)) htext

/-- The statement of a builder with a short name behind it makes up the fragment. -/
theorem Clauses.select_wrapping_query (d : Dialect) (hcontent : Text.Solid content) (hshort : Text.Ends shortName)
    (q : Query) : (wrapping (q.enclosed.sql ++ " AS " ++ shortName) content q.bindings).select d =
      .ok (q.wrapped content shortName) := by
  have hfragment : Text.Solid (q.enclosed.sql ++ " AS " ++ shortName) := by
    refine Text.Leads.solid ?_ hshort
    iterate 3 apply Text.Leads.append
    decide
  have hopen : " FROM (" = " FROM " ++ "(" := rfl
  have hclose : ") AS " = ")" ++ " AS " := rfl
  rw [select_wrapping d hfragment hcontent]
  unfold Query.wrapped Query.enclosed
  rw [hopen, hclose]
  simp only [String.append_assoc]

theorem Resolve.exec_selectClauses_wrapping {n : Nat} (depth : Nat)
    (hd : s.drafts[n]?.getD {} = .wrapping (.raw (.text fragment) bindings) (.raw (.text content) []))
    (hq : (Clauses.wrapping fragment content bindings).select (.ofEngine s.driver.engine) = .ok q) :
    (selectClauses depth n).exec env s = (.ok (.wrapping fragment content bindings), s) :=
  exec_selectClauses_of_none depth hd rfl rfl rfl rfl rfl rfl rfl rfl hq

end Wrapping

/-! ### The rows of the statement of a builder -/

namespace Execute

variable {content : String}

/-- A new builder for the statement of another one has its own draft in all that comes of the session. -/
theorem has_wrapping {role : BuilderRole} {fragment expression : Value}
    (ht : (s.wrapping role fragment expression).Grown t) :
    t.Has s.builders.size ⟨role, s.drafts.size, s.lead, .bool s.overwriting, .null, none⟩
      (.wrapping fragment expression) := by
  have hbuilder : (s.wrapping role fragment expression).builders[s.builders.size]? =
      some ⟨role, s.drafts.size, s.lead, .bool s.overwriting, .null, none⟩ := Array.getElem?_push_size
  have hdraft : (s.wrapping role fragment expression).drafts[s.drafts.size]? = some (.wrapping fragment expression) :=
    Array.getElem?_push_size
  exact {
    builder := (ht.builders _ (Array.getElem?_eq_some_iff.1 hbuilder).1).trans hbuilder
    draft := (ht.drafts _ (Array.getElem?_eq_some_iff.1 hdraft).1).trans hdraft }

/-- Such a builder compiles to the function over that statement. -/
theorem settled_compile_wrapping {depth : Nat} {role : BuilderRole} {shortName : String}
    (hdepth : env.depth = depth + 1) (hcontent : Text.Solid content) (hshort : Text.Ends shortName) (q : Query) :
    Settled (s.wrapping role (.raw (.text (q.enclosed.sql ++ " AS " ++ shortName)) q.bindings)
        (.raw (.text content) [])).Grown env (compile s.builders.size .select) (.ok (q.wrapped content shortName)) := by
  have hselect := Clauses.select_wrapping_query (.ofEngine s.driver.engine) hcontent hshort q
  refine settled_compile_alone (n := s.drafts.size) (e := s.driver.engine) hdepth
    (fun v hv => ⟨_, (has_wrapping hv).builder, rfl⟩) (fun v hv => congrArg Driver.engine hv.driver) (fun v hv => ?_)
    (fun v hv => ⟨v, Resolve.exec_selectClauses_wrapping depth ?_ (hv.driver ▸ hselect), hv⟩) hselect
  · rw [(has_wrapping hv).draft]
    rfl
  · rw [(has_wrapping hv).draft]
    rfl

/-- A new builder selects from the statement of another one as from a table. -/
theorem exec_selectRows_wrapping {depth : Nat} {role : BuilderRole} {shortName : String} (hs : s.Hookless)
    (hopen : ∀ scope, role = .transaction scope → s.scopes[scope]?.getD none = none) (hdepth : env.depth = depth + 1)
    (hcontent : Text.Solid content) (hshort : Text.Ends shortName) (q : Query) :
    ∃ u, Executed s (q.wrapped content shortName) u ∧
      (selectRows s.builders.size).exec env (s.wrapping role
          (.raw (.text (q.enclosed.sql ++ " AS " ++ shortName)) q.bindings) (.raw (.text content) [])) =
        (((s.driver.execute (.text (q.wrapped content shortName).sql) q.bindings).1.mapError u.raised).map (·.rows),
          u) := by
  let w := s.wrapping role (.raw (.text (q.enclosed.sql ++ " AS " ++ shortName)) q.bindings) (.raw (.text content) [])
  have hfooting : Footing env s.builders.size w w.Grown :=
    Grown.footing hs (has_wrapping (.refl w)).builder rfl hopen
  have htables : ∀ v, w.Grown v → ∀ table ∈ v.tablesOf s.builders.size, table.Attendable := by
    intro v hv table htable
    rw [tablesOf_eq (has_wrapping hv).builder, (has_wrapping hv).draft] at htable
    rw [List.mem_singleton.1 htable]
    exact .inl rfl
  obtain ⟨v, -, hexecuted, hrows⟩ :=
    hfooting.exec_selectRows (settled_compile_wrapping hdepth hcontent hshort q) htables
  exact ⟨_, ⟨hexecuted.noted, hexecuted.driver, hexecuted.journal⟩, hrows⟩

theorem exec_expressionRows_shaped (h : Footing env id s P) (hb : s.builders[id]? = some b)
    (hshapes : (s.declared id).shapesRows = true) (hcontent : Text.Solid content)
    (hq : (compile id .select).exec env s = (.ok q, t)) (ht : P t) : ∃ shortName u,
      (Dialect.ofEngine s.driver.engine).identifier (.text "count") = .ok shortName ∧
      Executed s (q.wrapped content shortName) u ∧ (expressionRows id (.raw (.text content) [])).exec env s =
        (((s.driver.execute (.text (q.wrapped content shortName).sql) q.bindings).1.mapError u.raised).map
          (·.rows), u) := by
  obtain ⟨depth, hdepth⟩ := exists_depth_of_compile hb hq
  obtain ⟨hdriver, hjournal⟩ := h.connection t ht
  obtain ⟨shortName, hshort, hends⟩ := Dialect.exists_identifier s.driver.engine (.inr rfl)
  obtain ⟨fault, hstops⟩ | ⟨b', hb', -, hscope⟩ := requireOpen_cases env id t
  · rw [h.isOpen t ht] at hstops
    cases hstops
  have hsub : (Declare.subQuery (.builder b.role.kind id) (.text "count")).exec env s = _ :=
    Declare.exec_subQuery hq rfl (hdriver ▸ hshort)
  obtain ⟨u, hexecuted, hrows⟩ :=
    exec_selectRows_wrapping (h.hookless t ht) hscope hdepth hcontent hends q
  refine ⟨shortName, u, hshort, hexecuted.behind hdriver hjournal, ?_⟩
  rw [exec_expressionRows hb, ← declared_eq hb, if_pos hshapes, exec_bind_ok hsub, exec_wrapped hb', hrows, hdriver]

end Execute

/-! ### The expression in place of the projection -/

theorem forall_ok_of_mapM {α β : Type} {f : α → Except Fault β} {xs : List α} {ys : List β}
    (h : xs.mapM f = .ok ys) : ∀ x ∈ xs, ∃ y, f x = .ok y := by
  induction xs generalizing ys with
  | nil => exact fun x hx => absurd hx List.not_mem_nil
  | cons x xs ih =>
      rw [List.mapM_cons] at h
      obtain ⟨y, hy, h⟩ := exists_ok_of_bind h
      obtain ⟨ys', hys, -⟩ := exists_ok_of_bind h
      exact List.forall_mem_cons.2 ⟨⟨y, hy⟩, ih hys⟩

/-- A table that a statement reads can be looked up among the hooks. -/
theorem Clauses.attendable_of_select {d : Dialect} {c : Clauses} (h : c.select d = .ok q) :
    ∀ table ∈ c.tables, table.Attendable := by
  obtain ⟨_, -, h⟩ := exists_ok_of_bind h
  obtain ⟨names, hnames, h⟩ := exists_ok_of_bind h
  iterate 7 obtain ⟨_, -, h⟩ := exists_ok_of_bind h
  intro table htable
  obtain ⟨name, hname⟩ := forall_ok_of_mapM hnames table htable
  cases hcallable : c.tables.any Value.isCallable with
  | true =>
      rw [hcallable] at h
      cases h
  | false =>
      have hplain : table.isCallable = false := Bool.eq_false_iff.2 (List.any_eq_false.1 hcallable table htable)
      unfold unlessCallable SqlBuilder.tableClause aliasOf? at hname
      rw [hplain, if_neg Bool.false_ne_true] at hname
      cases hraw : table.isRaw with
      | true => exact .inl hraw
      | false =>
          rw [hraw, if_neg Bool.false_ne_true] at hname
          obtain ⟨_, halias, -⟩ := exists_ok_of_bind hname
          refine .inr ?_
          unfold HookTable.slot
          cases hkey : table.isKey with
          | true => split <;> first | exact hkey | rfl
          | false =>
              rw [hkey] at halias
              cases halias

theorem Draft.empty_of_shapesRows {d : Draft} (h : d.shapesRows = false) :
    d.distincts.getD [] = [] ∧ d.unions.getD [] = [] := by
  unfold shapesRows at h
  simp only [Bool.or_eq_false_iff, Bool.not_eq_false', List.isEmpty_iff] at h
  exact ⟨h.1.1.2, h.1.2⟩

namespace Execute

/-- In all states that are like the session while the draft selects the expression, the builder compiles to its own
statement with the expression in place of the projection, and can look its tables up among the hooks. -/
theorem settled_compile_swapping (hs : s.Linked) (hb : s.builders[id]? = some b)
    (hplain : (s.declared id).shapesRows = false) (hP : P s)
    (h : (s.footprint id).Compares env P Q s (s.swapping b.draft (.raw (.text content) [])))
    (hq : (compile id .select).exec env s = (.ok q, t)) : P t ∧ ∃ c q',
      (Resolve.selectClauses (env.depth - 1) b.draft).exec env s = (.ok c, t) ∧
      c.SwapsTo (.ofEngine s.driver.engine) content q q' ∧ Settled Q env (compile id .select) (.ok q') ∧
      ∀ u, Q u → (∃ b', u.builders[id]? = some b') ∧ ∀ table ∈ u.tablesOf id, table.Attendable := by
  obtain ⟨depth, hdepth⟩ := exists_depth_of_compile hb hq
  have hclosed := hs.closed_footprint (Array.getElem?_eq_some_iff.1 hb).1
  obtain ⟨b₀, hb₀, hholds, -⟩ := hclosed.builder id (s.mem_footprint id)
  obtain rfl := Option.some.inj (hb.symm.trans hb₀)
  have hkept := hs.draft id b hb
  rw [declared_eq hb] at hplain
  obtain ⟨hdistincts, hunions⟩ := Draft.empty_of_shapesRows hplain
  have hfollows := Resolve.follows_selectClauses h hholds hkept hdistincts depth
  obtain ⟨c, hc, hown⟩ := compile_select_alone hb hdepth (fun c v hc => by
    rw [Resolve.draftAt_eq h.left hholds.draft (hfollows s c v hP hc).1]
    exact hunions) hq
  obtain ⟨ht, c', hswapped, hc'⟩ := hfollows s c t hP hc
  obtain ⟨q', hswaps⟩ := Clauses.select_swapped content (hswapped.distincts.trans hdistincts) hown
  have hbuilder : ∀ u, Q u → ∃ b', u.builders[id]? = some b' ∧ b'.draft = b.draft :=
    fun u hu => (h.right u hu).builders id (.inl (s.mem_footprint id)) b hb
  have hcompile : Settled Q env (compile id .select) (.ok q') := by
    refine settled_compile_alone hdepth hbuilder (fun u hu => (h.right u hu).engine) (fun u hu => ?_)
      (hswapped.swapped ▸ hc') hswaps.swapped
    rw [Resolve.draftAt_eq h.right hholds.draft hu, drafts_swapping hkept]
    exact hunions
  refine ⟨ht, c, q', ?_, hswaps, hcompile, fun u hu => ?_⟩
  · rw [hdepth]
    exact hc
  · obtain ⟨b', hb', hdraft⟩ := hbuilder u hu
    refine ⟨⟨b', hb'⟩, fun table htable => ?_⟩
    rw [tablesOf_eq hb', hdraft, Resolve.draftAt_eq h.right hholds.draft hu, drafts_swapping hkept] at htable
    exact Clauses.attendable_of_select hown table (hswapped.tables ▸ htable)

/-- The builder gets its own projection and order back behind the rows. -/
theorem exec_expressionRows_plain (hs : s.Linked) (hb : s.builders[id]? = some b)
    (hplain : (s.declared id).shapesRows = false) (hP : Footing env id s P)
    (hQ : Footing env id (s.swapping b.draft (.raw (.text content) [])) Q)
    (h : (s.footprint id).Compares env P Q s (s.swapping b.draft (.raw (.text content) [])))
    (hq : (compile id .select).exec env s = (.ok q, t)) : P t ∧ ∃ c q' u,
      (Resolve.selectClauses (env.depth - 1) b.draft).exec env s = (.ok c, t) ∧
      c.SwapsTo (.ofEngine s.driver.engine) content q q' ∧ Executed s q' u ∧
      (expressionRows id (.raw (.text content) [])).exec env s =
        (((s.driver.execute (.text q'.sql) q'.bindings).1.mapError u.raised).map (·.rows), u) := by
  obtain ⟨ht, c, q', hc, hswaps, hcompile, hbuilder⟩ := settled_compile_swapping hs hb hplain hP.start h hq
  obtain ⟨v, hv, hexecuted, hrows⟩ := hQ.exec_selectRows hcompile fun u hu => (hbuilder u hu).2
  obtain ⟨⟨b', hb'⟩, -⟩ := hbuilder v hv
  refine ⟨ht, c, q', (v.called q'.execution).restoring b'.draft (s.drafts[b.draft]?.getD {}), hc, hswaps,
    ⟨hexecuted.noted, hexecuted.driver, hexecuted.journal⟩, ?_⟩
  rw [exec_expressionRows hb, if_neg (Bool.eq_false_iff.1 (declared_eq hb ▸ hplain))]
  exact exec_withProjection hb hrows hb'

end Execute

/-! ### A comparison as a group -/

namespace Resolve

variable {n : Nat}

theorem exec_criteria_singleton {members : Nat → Act (List Condition)} {qualifier : Option String} {isBound : Bool}
    {list : Draft → Option (List Criterion)} {c : Criterion} {condition : Condition} {pieces : List Query}
    (h : (list (s.drafts[n]?.getD {})).getD [] = [c]) (hwritable : isUnwritable c = false)
    (hcriterion : (criterion members true c).exec env s = (.ok condition, s))
    (hpieces : condition.pieces (.ofEngine s.driver.engine) qualifier isBound true = .ok pieces) :
    (criteria members qualifier isBound list n).exec env s = (.ok [condition], s) := by
  have hcheck : (Act.check (condition.pieces (.ofEngine s.driver.engine) qualifier isBound true)).exec env s =
      (.ok (), s) := by
    rw [exec_check, hpieces]
    rfl
  unfold criteria
  rw [exec_bind_ok (exec_each_singleton h (y := (condition, false)) ?_)]
  · rfl
  · dsimp only
    rw [decide_eq_true rfl, exec_bind_ok hcriterion, exec_bind_ok exec_dialect, exec_bind_ok hcheck, hwritable]
    rfl

/-- A comparison as a group comes to the same in all sessions, and all that it leaves is its builder. -/
theorem settled_members_comparing {column : String} {v : Value} {pieces : List Query}
    (hpieces : (Condition.test ⟨"AND", false⟩ (.text column) (.text "=") v).pieces (.ofEngine s.driver.engine) none
      true true = .ok pieces) (script depth : Nat) : ∃ outcome, ∀ t : Session, t.driver.engine = s.driver.engine →
      Settled t.Grown (.comparing column v) (members depth script) outcome := by
  cases depth with
  | zero => exact ⟨.error .tooDeep, fun _ _ u hu => ⟨u, rfl, hu⟩⟩
  | succ depth =>
      refine ⟨.ok [.test ⟨"AND", false⟩ (.text column) (.text "=") v], fun t hengine u hu => ?_⟩
      let c : Criterion := ⟨.text column, .text "=", v, .text "AND", false, none⟩
      let nested : Builder := ⟨.group, u.drafts.size, u.lead, .bool u.overwriting, .null, none⟩
      let w : Session := { u with drafts := u.drafts.push {}, builders := u.builders.push nested }
      have hnew : (Act.newBuilder .group).exec (.comparing column v) u = (.ok u.builders.size, w) := rfl
      have hnested : w.builders[u.builders.size]? = some nested := Array.getElem?_push_size
      have hfill : (Act.fillBuilder script u.builders.size).exec (.comparing column v) w =
          (.ok (), w.comparing column v) := exec_bind_ok (exec_builderValue hnested)
      have hdraft : (w.comparing column v).drafts[u.drafts.size]?.getD {} = { criteria := some [c] } := by
        unfold Session.comparing
        change ((u.drafts.push {}).modify ((u.drafts.push {}).size - 1) _)[u.drafts.size]?.getD {} = _
        rw [Array.size_push, Nat.add_sub_cancel, Array.getElem?_modify, if_pos rfl, Array.getElem?_push_size]
        rfl
      have hof : (Act.draftOf u.builders.size).exec (.comparing column v) (w.comparing column v) =
          (.ok u.drafts.size, w.comparing column v) := exec_draftOf (s := w.comparing column v) hnested
      have hcriterion : (criterion (members depth) true c).exec (.comparing column v)
          (w.comparing column v) = (.ok (.test ⟨"AND", false⟩ (.text column) (.text "=") v), w.comparing column v) :=
        rfl
      have hengine' : (w.comparing column v).driver.engine = s.driver.engine :=
        (congrArg Driver.engine hu.driver).trans hengine
      refine ⟨w.comparing column v, ?_, ?_⟩
      · unfold members
        rw [exec_bind_ok hnew, exec_bind_ok hfill, exec_bind_ok hof]
        exact exec_criteria_singleton (congrArg (fun d => d.criteria.getD []) hdraft) rfl hcriterion
          (hengine' ▸ hpieces)
      · exact {
          driver := hu.driver
          journal := hu.journal
          hooks := hu.hooks
          scopes := hu.scopes
          builders := fun k hk => by
            have hne : k ≠ u.builders.size := (Nat.lt_of_lt_of_le hk hu.size.1).ne
            exact (Array.getElem?_push.trans (if_neg hne)).trans (hu.builders k hk)
          drafts := fun n hn => by
            have hne : n ≠ u.drafts.size := (Nat.lt_of_lt_of_le hn hu.size.2).ne
            change ((u.drafts.push {}).modify ((u.drafts.push {}).size - 1) _)[n]? = _
            rw [Array.size_push, Nat.add_sub_cancel, Array.getElem?_modify, if_neg hne.symm, Array.getElem?_push,
              if_neg hne]
            exact hu.drafts n hn
          size := by
            refine ⟨hu.size.1.trans ?_, hu.size.2.trans ?_⟩
            · exact (Array.size_push _).symm ▸ Nat.le_succ _
            · change _ ≤ ((u.drafts.push {}).modify ((u.drafts.push {}).size - 1) _).size
              rw [Array.size_modify, Array.size_push]
              exact Nat.le_succ _ }
end Resolve

/-! ### The statement of an aggregate -/

namespace Session

/-- As long as the groups add builders at most, and come to the same for an engine, nothing else matters to them. -/
theorem compares_grown {p : Footprint} (hkept : ∀ n ∈ p.drafts, n < s.drafts.size)
    (hgroups : ∀ script depth, ∃ outcome, ∀ t : Session, t.driver.engine = s.driver.engine →
      Settled t.Grown env (Resolve.members depth script) outcome) (n : Nat) (expression : Value) :
    p.Compares env s.Grown (s.swapping n expression).Grown s (s.swapping n expression) where
  left _ hu := sustains_grown hkept hu
  right _ hu := by
    refine sustains_grown (fun m hm => ?_) hu
    unfold swapping
    rw [Array.size_modify]
    exact hkept m hm
  engine := rfl
  groups _ _ _ _ script _ depth := by
    obtain ⟨outcome, hsettled⟩ := hgroups script depth
    exact ⟨outcome, hsettled s rfl, hsettled (s.swapping n expression) rfl⟩

end Session

/-- The draft has groups, distinct columns, members or a number of rows. What is declared to be empty or absent does not
count, but the number zero does. -/
def Draft.Shaped (d : Draft) : Prop :=
  d.groupBys.getD [] ≠ [] ∨ d.distincts.getD [] ≠ [] ∨ d.unions.getD [] ≠ [] ∨
    ∃ number ∈ [d.limit, d.offset, d.fetchNext], ∃ v, number = some v ∧ v.isNull = false

theorem Draft.shapesRows_iff (d : Draft) : d.shapesRows = true ↔ d.Shaped := by
  have hlist : ∀ {β : Type} (xs : List β), (!xs.isEmpty) = true ↔ xs ≠ [] := fun xs => by
    rw [Bool.not_eq_true', List.isEmpty_eq_false_iff]
  have hnumbers : ([d.limit, d.offset, d.fetchNext].any fun number => number.any fun v => !v.isNull) = true ↔
      ∃ number ∈ [d.limit, d.offset, d.fetchNext], ∃ v, number = some v ∧ v.isNull = false := by
    simp only [List.any_eq_true, Option.any_eq_true, Bool.not_eq_true']
  unfold shapesRows Shaped
  rw [Bool.or_eq_true, Bool.or_eq_true, Bool.or_eq_true, hlist, hlist, hlist, hnumbers, or_assoc, or_assoc]

theorem Draft.shapesRows_eq_false_iff {d : Draft} : d.shapesRows = false ↔ ¬d.Shaped := by
  rw [← shapesRows_iff, Bool.not_eq_true]

namespace BuilderCall

/-- The text of a function over rows is solid. -/
theorem solid_summary {c : BuilderCall} {function : String} {field : Value} (hc : c.summary? = some (function, field))
    (operand : String) {name : String} (hname : Text.Ends name) :
    Text.Solid (Text.upper function ++ "(" ++ operand ++ ") AS " ++ name) := by
  refine Text.Leads.solid ?_ hname
  iterate 3 apply Text.Leads.append
  cases c with
  | count field =>
      cases hc
      decide +kernel
  | aggregate f field =>
      cases hc
      cases f <;> decide +kernel
  | _ => cases hc

/-- What the call makes of the rows leaves the session as it is, but for the count of what is no number. -/
theorem exec_summarized (c : BuilderCall) (rows : List Row) (s : Session) : ∃ outcome n,
    (c.summarized rows).exec env s = (outcome, { s with unnumbered := n }) := by
  have hmarked : ∀ x, ∃ v n, (Act.marked x).exec env s = (.ok v, { s with unnumbered := n }) := by
    intro x
    unfold Act.marked
    split
    · exact ⟨_, s.unnumbered + 1, rfl⟩
    · exact ⟨_, s.unnumbered, rfl⟩
  have hsummarize : ∃ outcome n, (Execute.summarize rows).exec env s = (outcome, { s with unnumbered := n }) := by
    unfold Execute.summarize
    split
    · exact ⟨_, s.unnumbered, rfl⟩
    · exact ⟨_, s.unnumbered, rfl⟩
    · rename_i v _ _
      rw [exec_bind, exec_lift]
      cases Execute.floatOf v with
      | error fault => exact ⟨_, s.unnumbered, rfl⟩
      | ok x =>
          obtain ⟨w, n, hmarked⟩ := hmarked x
          exact ⟨_, n, hmarked⟩
  obtain ⟨outcome, n, hsummarize⟩ := hsummarize
  unfold summarized
  rw [exec_bind, hsummarize]
  cases outcome with
  | error fault => exact ⟨_, n, rfl⟩
  | ok v => exact ⟨_, n, exec_lift _⟩

end BuilderCall

namespace Session

/-- The call has had the statement executed and nothing else. Its answer is made of the rows that the driver has given,
and it fails if the driver does. -/
structure Answered (env : Surroundings) (c : BuilderCall) (s : Session) (q : Query) (outcome : Except Fault Value)
    (u : Session) : Prop where
  executed : Executed s q u
  failed : ∀ fault, (s.driver.execute (.text q.sql) q.bindings).1 = .error fault → outcome = .error (u.raised fault)
  answered : ∀ result, (s.driver.execute (.text q.sql) q.bindings).1 = .ok result →
    ∃ v, (c.summarized result.rows).exec env v = (outcome, u)

variable {c : BuilderCall} {function operand name content : String} {field expression : Value}

theorem answered_of_rows (hexecuted : Executed s q u)
    (hrows : (Execute.expressionRows id expression).exec env s =
      (((s.driver.execute (.text q.sql) q.bindings).1.mapError u.raised).map (·.rows), u))
    (hperform : (c.perform id).exec env s = (Execute.expressionRows id expression >>= c.summarized).exec env s) :
    Answered env c s q ((c.perform id).exec env s).1 ((c.perform id).exec env s).2 := by
  rw [hperform, exec_bind, hrows]
  cases hexecute : (s.driver.execute (.text q.sql) q.bindings).1 with
  | error fault =>
      refine ⟨hexecuted, fun other hother => ?_, fun result hresult => ?_⟩
      · rw [hexecute] at hother
        cases hother
        rfl
      · rw [hexecute] at hresult
        cases hresult
  | ok result =>
      obtain ⟨outcome, n, hsummarized⟩ : ∃ outcome n, (c.summarized result.rows).exec env u =
          (outcome, { u with unnumbered := n }) := c.exec_summarized result.rows u
      change Answered env c s q ((c.summarized result.rows).exec env u).1 ((c.summarized result.rows).exec env u).2
      rw [hsummarized]
      refine ⟨⟨hexecuted.noted, hexecuted.driver, hexecuted.journal⟩, fun fault hfault => ?_, fun other hother => ?_⟩
      · rw [hexecute] at hfault
        cases hfault
      · rw [hexecute] at hother
        cases hother
        exact ⟨u, hsummarized⟩

/-- An aggregate over a builder that shapes its rows has the function executed over the statement of the builder. Any
other builder has its own statement executed with the function in place of what is projected and without the order. -/
theorem summary_executed (hs : s.Linked) (hb : s.builders[id]? = some b) (hc : c.summary? = some (function, field))
    (htables : (s.declared id).tables.toList ≠ []) (hoffers : (s.declared id).Offers field)
    (hoperand : field.written = .ok operand)
    (hname : (Dialect.ofEngine s.driver.engine).identifier (.text "field") = .ok name)
    (hcontent : content = Text.upper function ++ "(" ++ operand ++ ") AS " ++ name)
    (hP : Footing env id s P) (hQ : Footing env id (s.swapping b.draft (.raw (.text content) [])) Q)
    (h : (s.footprint id).Compares env P Q s (s.swapping b.draft (.raw (.text content) [])))
    (hq : ((compile id .select).exec env s).1 = .ok q) : ∃ q',
      Answered env c s q' ((c.perform id).exec env s).1 ((c.perform id).exec env s).2 ∧
      ((s.declared id).Shaped → ∃ shortName,
        (Dialect.ofEngine s.driver.engine).identifier (.text "count") = .ok shortName ∧
        q' = q.wrapped content shortName) ∧
      (¬(s.declared id).Shaped → ∃ clauses t,
        (Resolve.selectClauses (env.depth - 1) b.draft).exec env s = (.ok clauses, t) ∧
        clauses.SwapsTo (.ofEngine s.driver.engine) content q q') := by
  have hexpression := Draft.summary_of_offers htables hoffers hoperand hname function
  rw [← hcontent] at hexpression
  have hperform : (c.perform id).exec env s = _ := BuilderCall.exec_summary_of_ok hc hb hexpression
  rcases hcompile : (compile id .select).exec env s with ⟨made, t⟩
  obtain rfl : made = .ok q := (congrArg Prod.fst hcompile).symm.trans hq
  cases hshapes : (s.declared id).shapesRows with
  | true =>
      have hshaped := (Draft.shapesRows_iff _).1 hshapes
      have hsolid : Text.Solid content := by
        obtain ⟨name', hname', hends⟩ := Dialect.exists_identifier s.driver.engine (.inl rfl)
        obtain rfl : name' = name := Except.ok.inj (hname'.symm.trans hname)
        exact hcontent ▸ BuilderCall.solid_summary hc operand hends
      have ht : P t := by
        have hid := (Array.getElem?_eq_some_iff.1 hb).1
        obtain ⟨outcome, hsettled⟩ := hs.settled_compile hid h.left h.groups.steady .select
        obtain ⟨v, hv, hPv⟩ := hsettled s hP.start
        rw [hcompile] at hv
        cases hv
        exact hPv
      obtain ⟨shortName, u, hshort, hexecuted, hrows⟩ :=
        Execute.exec_expressionRows_shaped hP hb hshapes hsolid hcompile ht
      exact ⟨_, answered_of_rows hexecuted hrows hperform, fun _ => ⟨shortName, hshort, rfl⟩,
        fun hplain => absurd hshaped hplain⟩
  | false =>
      have hplain : ¬(s.declared id).Shaped := by
        rw [← Draft.shapesRows_iff, hshapes]
        exact Bool.false_ne_true
      obtain ⟨-, clauses, q', u, hclauses, hswaps, hexecuted, hrows⟩ :=
        Execute.exec_expressionRows_plain hs hb hshapes hP hQ h hcompile
      exact ⟨q', answered_of_rows hexecuted hrows hperform, fun hshaped => absurd hshaped hplain,
        fun _ => ⟨clauses, t, hclauses, hswaps⟩⟩

end Session

/-- The people that meet the conditions of a group, in an order, and no more of them than the number. -/
def Draft.listed (number : Option Value) : Draft :=
  { Draft.grouped "people" with orderBys := some [⟨.text "name", "ASC"⟩], limit := number }

/-- The same as clauses, where the group is a comparison. -/
def Clauses.listed (number : Option Value) : Clauses :=
  { Resolve.withPages (Resolve.opening (.listed number)) (.listed number) with
    wheres := [.group ⟨"AND", false⟩ [.test ⟨"AND", false⟩ (.text "age") (.text "=") (.int 18)]]
    orderBys := [⟨.text "name", "ASC"⟩] }

namespace Session

def listed (number : Option Value) : Session := .ofDraft .postgresql (.listed number)

def listedOut (number : Option Value) : Session :=
  (((BuilderCall.count (.text "*")).perform 0).exec (.comparing "age" (.int 18)) (listed number)).2

/-- What stands in place of the projection. -/
def counting : Value := .raw (.text "COUNT(*) AS \"field\"") []

theorem linked_listed (number : Option Value) : (listed number).Linked := linked_ofDraft rfl rfl

/-- The number zero shapes the rows as well, so that they are counted over their statement. Without a number the
statement itself counts them. -/
theorem summary_executed_listed :
    Executed (listed (some (.int 0)))
      ⟨"SELECT COUNT(*) AS \"field\" FROM (SELECT * FROM \"people\" WHERE (\"age\" = ?) " ++
        "ORDER BY \"name\" ASC LIMIT 0) AS \"count\"", [.int 18]⟩ (listedOut (some (.int 0))) ∧
    Executed (listed none) ⟨"SELECT COUNT(*) AS \"field\" FROM \"people\" WHERE (\"age\" = ?)", [.int 18]⟩
      (listedOut none) := by
  have hbuilder : ∀ number, (listed number).builders[0]? = some ⟨.query, 0, none, .bool false, .null, none⟩ :=
    fun _ => rfl
  have hfooting : ∀ number, Footing (.comparing "age" (.int 18)) 0 (listed number) (listed number).Grown :=
    fun _ => Grown.footing (hookless_of_nil rfl) rfl rfl fun _ h => nomatch h
  have hswapping : ∀ number, Footing (.comparing "age" (.int 18)) 0 ((listed number).swapping 0 counting)
      ((listed number).swapping 0 counting).Grown :=
    fun _ => Grown.footing (hookless_of_nil rfl) rfl rfl fun _ h => nomatch h
  have hcompares : ∀ number, ((listed number).footprint 0).Compares (.comparing "age" (.int 18))
      (listed number).Grown ((listed number).swapping 0 counting).Grown (listed number)
        ((listed number).swapping 0 counting) := fun number =>
    compares_grown ((linked_listed number).closed_footprint Nat.one_pos).kept
      (fun script depth => Resolve.settled_members_comparing rfl script depth) _ _
  have hcontent : "COUNT(*) AS \"field\"" = Text.upper "count" ++ "(" ++ "*" ++ ") AS " ++ "\"field\"" := by
    decide +kernel
  have hout : ∀ number, listedOut number =
      (((BuilderCall.count (.text "*")).perform 0).exec (.comparing "age" (.int 18)) (listed number)).2 := fun _ => rfl
  rw [hout, hout]
  constructor
  · have htree : (StatementRequest.select.resolve 0).exec (.comparing "age" (.int 18)) (listed (some (.int 0))) =
        (.ok (.select (.mk (.listed (some (.int 0))) [])), _) := rfl
    have hrender : (StatementTree.select (.mk (.listed (some (.int 0))) [])).render (.ofEngine .postgresql) =
        .ok ⟨"SELECT * FROM \"people\" WHERE (\"age\" = ?) ORDER BY \"name\" ASC LIMIT 0", [.int 18]⟩ :=
      StatementTree.render_eq_of_sql (by decide +kernel)
    obtain ⟨q', hanswered, hwraps, -⟩ := summary_executed (linked_listed (some (.int 0))) (hbuilder _)
      (c := .count (.text "*")) rfl (by decide) (.inl rfl) rfl rfl hcontent (hfooting _) (hswapping _) (hcompares _)
      ((congrArg Prod.fst (exec_compile htree)).trans hrender)
    obtain ⟨shortName, hshort, rfl⟩ := hwraps ((Draft.shapesRows_iff _).1 rfl)
    obtain rfl : "\"count\"" = shortName := Except.ok.inj hshort
    have htext : (Query.mk
        "SELECT * FROM \"people\" WHERE (\"age\" = ?) ORDER BY \"name\" ASC LIMIT 0" [.int 18]).wrapped
        "COUNT(*) AS \"field\"" "\"count\"" =
          ⟨"SELECT COUNT(*) AS \"field\" FROM (SELECT * FROM \"people\" WHERE (\"age\" = ?) " ++
            "ORDER BY \"name\" ASC LIMIT 0) AS \"count\"", [.int 18]⟩ :=
      congrArg (Query.mk · [.int 18]) (by decide +kernel)
    rw [← htext]
    exact hanswered.executed
  · have htree : (StatementRequest.select.resolve 0).exec (.comparing "age" (.int 18)) (listed none) =
        (.ok (.select (.mk (.listed none) [])), _) := rfl
    have hrender : (StatementTree.select (.mk (.listed none) [])).render (.ofEngine .postgresql) =
        .ok ⟨"SELECT * FROM \"people\" WHERE (\"age\" = ?) ORDER BY \"name\" ASC", [.int 18]⟩ :=
      StatementTree.render_eq_of_sql (by decide +kernel)
    obtain ⟨q', hanswered, -, hplain⟩ := summary_executed (linked_listed none) (hbuilder _)
      (c := .count (.text "*")) rfl (by decide) (.inl rfl) rfl rfl hcontent (hfooting _) (hswapping _) (hcompares _)
      ((congrArg Prod.fst (exec_compile htree)).trans hrender)
    obtain ⟨clauses, t, hclauses, hswaps⟩ := hplain fun h => Bool.false_ne_true ((Draft.shapesRows_iff _).2 h)
    obtain rfl : Clauses.listed none = clauses := Except.ok.inj (congrArg Prod.fst hclauses)
    have hcounts : (StatementTree.select (.mk ((Clauses.listed none).swapped counting) [])).render
        (.ofEngine .postgresql) =
          .ok ⟨"SELECT COUNT(*) AS \"field\" FROM \"people\" WHERE (\"age\" = ?)", [.int 18]⟩ :=
      StatementTree.render_eq_of_sql (by decide +kernel)
    have hswapped : (StatementTree.select (.mk ((Clauses.listed none).swapped counting) [])).render
        (.ofEngine .postgresql) = .ok q' := by
      unfold StatementTree.render SelectTree.render
      exact congrArg (· >>= _) hswaps.swapped
    obtain rfl := Except.ok.inj (hswapped.symm.trans hcounts)
    exact hanswered.executed

def cities : Session :=
  .ofDraft .postgresql { Draft.over (.text "people") with distinctOn := some [.plain (.text "city")] }

def citiesOut : Session := (((BuilderCall.count (.text "*")).perform 0).exec (.scriptless 2) cities).2

/-- The rows that are counted are those of the table: columns that rows must differ in do not count as shaping them. -/
theorem not_summary_executed : cities.Hookless ∧ cities.Vacant 0 ∧
    ((compile 0 .select).exec (.scriptless 2) cities).1 = .ok ⟨"SELECT DISTINCT ON (\"city\") * FROM \"people\"", []⟩ ∧
    (citiesOut.lastStatement.bind fun i => i.sql.text?) =
      some "SELECT DISTINCT ON (\"city\") COUNT(*) AS \"field\" FROM \"people\"" ∧
    ¬ Executed cities
      ⟨"SELECT COUNT(*) AS \"field\" FROM (SELECT DISTINCT ON (\"city\") * FROM \"people\") AS \"count\"", []⟩
      citiesOut := by
  let d : Draft := { Draft.over (.text "people") with distinctOn := some [.plain (.text "city")] }
  have htree : (StatementRequest.select.resolve 0).exec (.scriptless 2) cities =
      (.ok (.select (.mk (Resolve.withPages (Resolve.opening d) d) [])), cities) := rfl
  have hrender : (StatementTree.select (.mk (Resolve.withPages (Resolve.opening d) d) [])).render
      (.ofEngine .postgresql) = .ok ⟨"SELECT DISTINCT ON (\"city\") * FROM \"people\"", []⟩ :=
    StatementTree.render_eq_of_sql (by decide +kernel)
  have hlast : (citiesOut.lastStatement.bind fun i => i.sql.text?) =
      some "SELECT DISTINCT ON (\"city\") COUNT(*) AS \"field\" FROM \"people\"" := by decide +kernel
  refine ⟨hookless_of_nil rfl, ⟨_, rfl, rfl⟩, ?_, hlast, fun h => ?_⟩
  · rw [exec_compile htree]
    exact hrender
  · rw [h.noted] at hlast
    exact absurd hlast (by decide +kernel)

end Session

end SqlBuilder
