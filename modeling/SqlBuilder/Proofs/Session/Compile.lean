import SqlBuilder.Proofs.Session.Run
import SqlBuilder.Proofs.Statement.Interpolation
import SqlBuilder.Proofs.Statement.Noninterference
import SqlBuilder.Proofs.Statement.Placeholders
import SqlBuilder.Session.Resolve

/-!
Compilation as resolution and writing. What a builder has declared resolves to a tree, with the scripts of its
groups run and the builders of its joins and unions looked up; the tree is then written in the dialect of the
connection. So what holds of every tree holds of every statement that a builder compiles.
-/

namespace SqlBuilder

/-- The statement that a builder stands for, as a tree. -/
def StatementRequest.resolve (id : Nat) (request : StatementRequest) : Act StatementTree := do
  let depth := (← read).depth
  let draft ← Act.draftOf id
  match request with
  | .select => do pure (.select (← Resolve.select depth id))
  | .insert verb data => do pure (.insert (Resolve.opening (← Act.draftAt draft)) verb data)
  | .update data => do pure (.update (← Resolve.updateClauses depth draft data) data)
  | .delete columns => do pure (.delete (← Resolve.deleteClauses depth draft) columns)
  | .conditions isBound => do
    pure (.conditions isBound (← Resolve.criteria (Resolve.members depth) none isBound (·.criteria) draft))

theorem compile_eq (id : Nat) (request : StatementRequest) : compile id request = (do
    let dialect ← Act.dialect
    let tree ← request.resolve id
    Act.lift (tree.render dialect)) := by
  cases request <;> simp [compile, StatementRequest.resolve, StatementTree.render]

/-- A builder compiles to its tree in writing. -/
theorem exec_compile {env : Surroundings} {s s' : Session} {id : Nat} {request : StatementRequest}
    {t : StatementTree} (h : (request.resolve id).exec env s = (.ok t, s')) :
    (compile id request).exec env s = (t.render (.ofEngine s.driver.engine), s') := by
  rw [compile_eq, Act.exec_bind_ok Act.exec_dialect, Act.exec_bind_ok h, Act.exec_lift]

/-- Whether a builder compiles to the text is told by the tree that it stands for. -/
instance (id : Nat) (request : StatementRequest) (env : Surroundings) (s : Session) (o : Option String) :
    Decidable (((compile id request).exec env s).1.toOption.map (·.sql) = o) :=
  decidable_of_iff ((((request.resolve id).exec env s).1.toOption.bind fun t =>
      (t.wording (.ofEngine s.driver.engine)).toOption) = o) <| by
    rcases htree : (request.resolve id).exec env s with ⟨_ | t, u⟩
    · rw [compile_eq, Act.exec_bind_ok Act.exec_dialect, Act.exec_bind_error htree]
      rfl
    · rw [exec_compile htree]
      change (t.wording _).toOption = o ↔ (t.render _).toOption.map (·.sql) = o
      rw [StatementTree.wording_eq]
      cases t.render (.ofEngine s.driver.engine) <;> rfl

/-! ### A session with one builder -/

/-- No script runs. -/
def Surroundings.scriptless (depth : Nat) : Surroundings :=
  ⟨fun _ _ => throw .tooDeep, fun _ _ _ => throw .tooDeep, depth⟩

/-- A session with one builder, which has declared what the draft says. -/
def Session.ofDraft (engine : Engine) (d : Draft) : Session where
  lead := none
  overwriting := false
  driver := .scripted ⟨engine, [], none, none, none, 0, .null, false⟩
  builders := #[⟨.query, 0, none, .bool false, .null, none⟩]
  drafts := #[d]

def Draft.matching (table column : String) (v : Value) : Draft where
  tables := .declared [.text table]
  wheres := some [⟨.text column, .text "=", v, .text "AND", false, none⟩]

def Clauses.matching (table column : String) (v : Value) : Clauses :=
  { Resolve.opening (Draft.matching table column v) with
    wheres := [.test ⟨"AND", false⟩ (.text column) (.text "=") v] }

def StatementTree.matching (table column : String) (v : Value) : StatementTree :=
  .select (.mk (.matching table column v) [])

/-- Where only tables are declared, their names have to fit. -/
theorem Clauses.fits_opening {V : Vocabulary} {tables : List Value} (h : ∀ table ∈ tables, V.Name table) :
    (Resolve.opening { tables := .declared tables }).Fits V := by
  have hnone : ∀ {α : Type} {P : α → Prop}, ∀ x ∈ ([] : List α), P x := fun x hx => absurd hx List.not_mem_nil
  have habsent : ∀ x ∈ (none : Option Value), V.Word x := fun x hx => absurd hx (Option.not_mem_none x)
  exact ⟨hnone, hnone, hnone, h, hnone, hnone, trivial, hnone, trivial, hnone, habsent, habsent, habsent, hnone⟩

theorem StatementTree.fits_matching {V : Vocabulary} {table column : String} {v : Value}
    (htable : Text.Avoids Text.marks table) (hcolumn : Text.Avoids Text.marks column) (hv : V.Operand true v) :
    (StatementTree.matching table column v).Fits V := by
  have hname : ∀ name ∈ [Value.text table], V.Name name := by
    intro name hmem
    rw [List.mem_singleton.1 hmem]
    exact Vocabulary.word_text (V.avoids htable)
  refine ⟨{ Clauses.fits_opening hname with wheres := ⟨⟨V.avoids (by decide), ?_, ?_, hv⟩, trivial⟩ }, trivial⟩
  · exact Vocabulary.word_text (V.avoids hcolumn)
  · exact Vocabulary.word_text (V.avoids (by decide))

theorem resolve_matching (table column : String) (i : Int) :
    (StatementRequest.select.resolve 0).exec (.scriptless 1) (.ofDraft .mysql (.matching table column (.int i))) =
      (.ok (.matching table column (.int i)), .ofDraft .mysql (.matching table column (.int i))) := rfl

theorem render_matching_number :
    (StatementTree.matching "t" "a" (.int 1)).render (.ofEngine .mysql) =
      .ok ⟨"SELECT * FROM `t` WHERE `a` = ?", [.int 1]⟩ :=
  StatementTree.render_eq_of_sql (by decide +kernel)

/-! ### Values in the places of placeholders -/

/-- Filling the values of a compiled projection into its text gives the text of the same projection with every value
written in its place. There are as many question marks as values, and they stand in the same order. -/
theorem compile_select_interpolated {env : Surroundings} {s s' s'' : Session} {id : Nat} {tree : SelectTree}
    {q : Query} (hasEscapes : Bool) (htree : (StatementRequest.select.resolve id).exec env s = (.ok (.select tree), s'))
    (hq : (compile id .select).exec env s = (.ok q, s'')) (hfits : tree.Fits .counted)
    (hgood : ∀ v ∈ q.bindings, v.IsBindable hasEscapes) :
    q.sql.toList.count '?' = q.bindings.length ∧ ∃ text, (q.issued hasEscapes).text? = some text ∧
      (tree.refit (.interpolation hasEscapes)).render (.ofEngine s.driver.engine) = .ok (.plain text) := by
  rw [exec_compile htree] at hq
  exact StatementTree.text_issued (t := .select tree) hasEscapes hfits (congrArg Prod.fst hq) hgood

theorem compile_select_interpolated_number :
    ∃ text, (Query.issued ⟨"SELECT * FROM `t` WHERE `a` = ?", [.int 1]⟩ false).text? = some text ∧
      (SelectTree.refit (.interpolation false) (.mk (.matching "t" "a" (.int 1)) [])).render .mysql =
        .ok (.plain text) := by
  have htree := resolve_matching "t" "a" 1
  have hq := exec_compile htree
  refine (compile_select_interpolated false htree (hq.trans (congrArg (·, _) render_matching_number)) ?_ ?_).2
  · exact StatementTree.fits_matching (by decide) (by decide) trivial
  · intro v hv
    rw [List.mem_singleton.1 hv]
    exact ⟨rfl, "1", by decide +kernel, fun ⟨_, _, _, h⟩ => by cases h⟩

/-- A bound statement loses the blanks at its end when it is written in its place, and keeps them when it is filled
in. -/
theorem not_compile_select_interpolated_blank :
    ∃ (tree : SelectTree) (q : Query) (s : Session),
      (StatementRequest.select.resolve 0).exec (.scriptless 1)
          (.ofDraft .mysql (.matching "t" "a" (.statement (.text " ") [] false))) = (.ok (.select tree), s) ∧
        (compile 0 .select).exec (.scriptless 1)
          (.ofDraft .mysql (.matching "t" "a" (.statement (.text " ") [] false))) = (.ok q, s) ∧
        tree.Fits .counted ∧ (∀ v ∈ q.bindings, v.isRaw = false ∧ v.literal? false = some " ") ∧
        ¬∃ text, (q.issued false).text? = some text ∧
          (tree.refit (.interpolation false)).render .mysql = .ok (.plain text) := by
  have htree : (StatementRequest.select.resolve 0).exec (.scriptless 1)
      (.ofDraft .mysql (.matching "t" "a" (.statement (.text " ") [] false))) =
        (.ok (.matching "t" "a" (.statement (.text " ") [] false)),
          .ofDraft .mysql (.matching "t" "a" (.statement (.text " ") [] false))) := rfl
  have hrender : (StatementTree.matching "t" "a" (.statement (.text " ") [] false)).render (.ofEngine .mysql) =
      .ok ⟨"SELECT * FROM `t` WHERE `a` = ?", [.statement (.text " ") [] false]⟩ :=
    StatementTree.render_eq_of_sql (by decide +kernel)
  refine ⟨.mk (.matching "t" "a" (.statement (.text " ") [] false)) [],
    ⟨"SELECT * FROM `t` WHERE `a` = ?", [.statement (.text " ") [] false]⟩, _, htree,
    (exec_compile htree).trans (congrArg (·, _) hrender),
    StatementTree.fits_matching (by decide) (by decide) trivial, ?_, ?_⟩
  · intro v hv
    rw [List.mem_singleton.1 hv]
    exact ⟨rfl, by decide +kernel⟩
  · rintro ⟨text, htext, hplain⟩
    have hfilled : (Query.issued ⟨"SELECT * FROM `t` WHERE `a` = ?", [.statement (.text " ") [] false]⟩ false).text? =
        some "SELECT * FROM `t` WHERE `a` =  " := by decide +kernel
    have hwritten : (((StatementTree.matching "t" "a" (.statement (.text " ") [] false)).refit
        (.interpolation false)).render (.ofEngine .mysql)).toOption.map (·.sql) =
        some "SELECT * FROM `t` WHERE `a` =" := by decide +kernel
    have hsame : some text = some "SELECT * FROM `t` WHERE `a` =" := by
      rw [← hwritten]
      exact (congrArg (fun outcome => outcome.toOption.map Query.sql) hplain).symm
    rw [← htext, hfilled] at hsame
    exact absurd hsame (by decide)

/-! ### Values do not reach the text -/

/-- Two builders whose statements are the same once their values are erased compile to the same text, or fail in the
same way. The values of each statement are its own in the order of their places, and there are equally many. -/
theorem compile_noninterference {env₁ env₂ : Surroundings} {s₁ s₂ s₁' s₂' : Session} {id₁ id₂ : Nat}
    {request₁ request₂ : StatementRequest} {t₁ t₂ : StatementTree}
    (hengine : s₁.driver.engine = s₂.driver.engine)
    (h₁ : (request₁.resolve id₁).exec env₁ s₁ = (.ok t₁, s₁'))
    (h₂ : (request₂.resolve id₂).exec env₂ s₂ = (.ok t₂, s₂')) (herased : t₁.erased = t₂.erased) :
    Agree (fun q₁ q₂ => q₁.sql = q₂.sql ∧ q₁.bindings = t₁.boundValues ∧ q₂.bindings = t₂.boundValues ∧
        t₁.boundValues.length = t₂.boundValues.length)
      ((compile id₁ request₁).exec env₁ s₁).1 ((compile id₂ request₂).exec env₂ s₂).1 := by
  rw [exec_compile h₁, exec_compile h₂, hengine]
  exact StatementTree.render_congr_erased herased

theorem compile_noninterference_numbers :
    Agree (fun q₁ q₂ => q₁.sql = q₂.sql ∧ q₁.bindings = [.int 1] ∧ q₂.bindings = [.int 2])
      ((compile 0 .select).exec (.scriptless 1) (.ofDraft .mysql (.matching "t" "a" (.int 1)))).1
      ((compile 0 .select).exec (.scriptless 1) (.ofDraft .mysql (.matching "t" "a" (.int 2)))).1 := by
  have hone := resolve_matching "t" "a" 1
  have htwo := resolve_matching "t" "a" 2
  have hengine : (Session.ofDraft .mysql (.matching "t" "a" (.int 1))).driver.engine =
      (Session.ofDraft .mysql (.matching "t" "a" (.int 2))).driver.engine := rfl
  have herased : (StatementTree.matching "t" "a" (.int 1)).erased =
      (StatementTree.matching "t" "a" (.int 2)).erased := rfl
  exact (compile_noninterference hengine hone htwo herased).mono fun q₁ q₂ hq => ⟨hq.1, hq.2.1, hq.2.2.1⟩

/-! ### Placeholders of database modules -/

/-- The conversion of a compiled projection has a placeholder in the place of each value and no other. The places are
those into which any way of writing values would put them, and what a module with the style reads in a placeholder leads
to the value of its place. -/
theorem compile_select_converted {env : Surroundings} {s s' s'' : Session} {id : Nat} {tree : SelectTree} {q : Query}
    {style : PlaceholderStyle} (hstyle : style ≠ .qmark)
    (htree : (StatementRequest.select.resolve id).exec env s = (.ok (.select tree), s'))
    (hq : (compile id .select).exec env s = (.ok q, s'')) (hfits : tree.Fits .quoted) :
    ∃ o : StyledOutline, o.outline.marked = q.sql.toList ∧ o.outline.values = q.bindings ∧
      (∀ write : Value → String, (∀ v, Text.IsSolid (write v).toList) →
        (tree.refit (.writing write)).render (.ofEngine s.driver.engine) =
          .ok (.plain (String.ofList (o.outline.filled fun v => (write v).toList)))) ∧
      (style.convert q.sql).toList = o.written style ∧
      (SqlToken.ofChars q.sql.toList).count .placeholder = q.bindings.length ∧
      ∀ place word v, o.placeholders[place]? = some (word, v) →
        (style.reference? word).bind ((style.bind q.bindings).refer? place) = some v := by
  rw [exec_compile htree] at hq
  exact StatementTree.convert_render (t := .select tree) hstyle hfits (congrArg Prod.fst hq)

theorem compile_select_converted_number :
    ∃ o : StyledOutline, o.outline.marked = "SELECT * FROM `t` WHERE `a` = ?".toList ∧ o.outline.values = [.int 1] ∧
      o.written .named = (PlaceholderStyle.named.convert "SELECT * FROM `t` WHERE `a` = ?").toList ∧
      ∀ place word v, o.placeholders[place]? = some (word, v) →
        (PlaceholderStyle.named.reference? word).bind ((PlaceholderStyle.named.bind [.int 1]).refer? place) =
          some v := by
  have htree := resolve_matching "t" "a" 1
  have hq := exec_compile htree
  obtain ⟨o, hmarked, hvalues, -, hconvert, -, hrefer⟩ :=
    compile_select_converted (by decide : PlaceholderStyle.named ≠ .qmark) htree
      (hq.trans (congrArg (·, _) render_matching_number))
      (StatementTree.fits_matching (by decide) (by decide) trivial)
  exact ⟨o, hmarked, hvalues, hconvert.symm, hrefer⟩

end SqlBuilder
