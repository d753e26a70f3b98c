import SqlBuilder.Proofs.Session.Compile
import SqlBuilder.Proofs.Statement.Placing

/-!
The places of the values in what a builder compiles, for every kind of statement. The values of an insertion come in
front of those for rows that are there already; those of an update are the values of the joins, of the new contents,
and of the clauses behind them. A fragment of SQL that names a table or a column without being taken over as a whole
leaves a question mark for each of its values, and none of these is bound.
-/

namespace SqlBuilder

/-- As long as fragments of SQL stand only where their values are taken over, the question marks of a compiled
statement are the places of its values, one for each and in the same order. -/
theorem compile_places {env : Surroundings} {s s' s'' : Session} {id : Nat} {request : StatementRequest}
    {t : StatementTree} {q : Query} (htree : (request.resolve id).exec env s = (.ok t, s'))
    (hq : (compile id request).exec env s = (.ok q, s'')) (hfits : t.Fits .counted) :
    q.bindings = t.boundValues ∧ t.Places s.driver.engine q.sql q.bindings := by
  rw [exec_compile htree] at hq
  have hrender : t.render (.ofEngine s.driver.engine) = .ok q := congrArg Prod.fst hq
  refine ⟨StatementTree.bindings_render hrender, ?_⟩
  rw [← StatementTree.values_true_of_fits (fun _ _ h => h) hfits hrender]
  exact StatementTree.places_values Vocabulary.isBalanced_counted hfits hrender

theorem resolve_update_matching (table column changed content : String) (i : Int) :
    ((StatementRequest.update (.map [(.text changed, .text content)])).resolve 0).exec (.scriptless 1)
        (.ofDraft .mysql (.matching table column (.int i))) =
      (.ok (.update (.matching table column (.int i)) (.map [(.text changed, .text content)])),
        .ofDraft .mysql (.matching table column (.int i))) := rfl

/-- The new content of a column comes in front of the value that the rows are found by. -/
theorem compile_places_update :
    ((compile 0 (.update (.map [(.text "b", .text "x")]))).exec (.scriptless 1)
        (.ofDraft .mysql (.matching "t" "a" (.int 1)))).1 =
      .ok ⟨"UPDATE `t` SET `b` = ? WHERE `a` = ?", [.text "x", .int 1]⟩ ∧
    (StatementTree.update (.matching "t" "a" (.int 1)) (.map [(.text "b", .text "x")])).Places .mysql
      "UPDATE `t` SET `b` = ? WHERE `a` = ?" [.text "x", .int 1] := by
  have htree := resolve_update_matching "t" "a" "b" "x" 1
  have hrender : (StatementTree.update (.matching "t" "a" (.int 1)) (.map [(.text "b", .text "x")])).render
      (.ofEngine .mysql) = .ok ⟨"UPDATE `t` SET `b` = ? WHERE `a` = ?", [.text "x", .int 1]⟩ :=
    StatementTree.render_eq_of_sql (by decide +kernel)
  have hq := (exec_compile htree).trans (congrArg (·, _) hrender)
  have hword : ∀ s, Text.Avoids Text.marks s → Vocabulary.counted.Word (.text s) := by
    intro s hs t ht
    rw [← Option.some.inj ht]
    exact Vocabulary.counted.avoids hs
  refine ⟨congrArg Prod.fst hq, (compile_places htree hq ⟨?_, ?_, ?_⟩).2⟩
  · exact (StatementTree.fits_matching (v := .int 1) (by decide) (by decide) trivial).1
  · intro table htable
    rw [← Option.some.inj htable]
    exact hword "t" (by decide)
  · intro cell hcell
    rw [List.mem_singleton.1 hcell]
    exact ⟨hword "b" (by decide), trivial⟩

/-! ### Fragments of SQL in the places of names -/

/-- Also where the text of a fragment of SQL is written without its values, the compiled statement has a place for
each of them, among those of the values that are bound. The others come in their order, and there are as many
placeholders as values only if no value is spare. -/
theorem compile_places_spare {env : Surroundings} {s s' s'' : Session} {id : Nat} {request : StatementRequest}
    {t : StatementTree} {q : Query} (htree : (request.resolve id).exec env s = (.ok t, s'))
    (hq : (compile id request).exec env s = (.ok q, s'')) (hfits : t.Fits .balanced) :
    q.bindings = t.boundValues ∧ t.Places s.driver.engine q.sql (t.values true) ∧
      q.bindings.Sublist (t.values true) ∧
      (q.sql.toList.count '?' = q.bindings.length ↔ t.values true = t.boundValues) := by
  rw [exec_compile htree] at hq
  have hrender : t.render (.ofEngine s.driver.engine) = .ok q := congrArg Prod.fst hq
  have hbindings := StatementTree.bindings_render hrender
  have hplaces := StatementTree.places_values Vocabulary.isBalanced_balanced hfits hrender
  rw [hplaces.1, hbindings]
  refine ⟨rfl, hplaces, t.boundValues_sublist, fun hlength => ?_, congrArg List.length⟩
  exact (t.boundValues_sublist.eq_of_length hlength.symm).symm

def Draft.over (table : Value) : Draft where
  tables := .declared [table]

def StatementTree.clearing (table : Value) : StatementTree := .delete (Resolve.opening (.over table)) .null

theorem StatementTree.fits_clearing {V : Vocabulary} {table : Value} (hname : V.Name table)
    (hbare : V.BareName table) : (StatementTree.clearing table).Fits V := by
  refine ⟨Clauses.fits_opening fun name hmem => ?_, fun name hmem => ?_, fun names hnames => ?_⟩
  · rwa [List.mem_singleton.1 hmem]
  · rwa [← Option.some.inj hmem]
  · exact absurd hnames (by simp [Value.elements?])

theorem resolve_clearing (table : Value) :
    ((StatementRequest.delete .null).resolve 0).exec (.scriptless 1) (.ofDraft .mysql (.over table)) =
      (.ok (.clearing table), .ofDraft .mysql (.over table)) := rfl

theorem render_clearing_fragment :
    (StatementTree.clearing (.raw (.text "f(?)") [.int 7])).render (.ofEngine .mysql) =
      .ok ⟨"DELETE FROM f(?)", []⟩ :=
  StatementTree.render_eq_of_sql (by decide +kernel)

/-- The place of the value of a table is there, and nothing is bound. -/
theorem compile_places_spare_table :
    (StatementTree.clearing (.raw (.text "f(?)") [.int 7])).Places .mysql "DELETE FROM f(?)" [.int 7] ∧
      ([] : List Value).Sublist [.int 7] := by
  have htree := resolve_clearing (.raw (.text "f(?)") [.int 7])
  have hq := (exec_compile htree).trans (congrArg (·, _) render_clearing_fragment)
  have hcount : "f(?)".toList.count '?' = [Value.int 7].length := by decide
  obtain ⟨-, hplaces, hsublist, -⟩ := compile_places_spare htree hq (StatementTree.fits_clearing hcount hcount)
  exact ⟨hplaces, hsublist⟩

/-- So a fragment of SQL that has as many question marks as values can lose its values. -/
theorem not_compile_places_table : ∃ q : Query,
    ((compile 0 (.delete .null)).exec (.scriptless 1)
        (.ofDraft .mysql (.over (.raw (.text "f(?)") [.int 7])))).1 = .ok q ∧
      (StatementTree.clearing (.raw (.text "f(?)") [.int 7])).Fits .balanced ∧
      q.sql.toList.count '?' ≠ q.bindings.length := by
  have hcount : "f(?)".toList.count '?' = [Value.int 7].length := by decide
  refine ⟨⟨"DELETE FROM f(?)", []⟩, ?_, StatementTree.fits_clearing hcount hcount, by decide⟩
  rw [exec_compile (resolve_clearing _)]
  exact render_clearing_fragment

end SqlBuilder
