import SqlBuilder.Proofs.Reading
import SqlBuilder.Proofs.Statement.Noninterference

/-!
Statements whose values are written into their text. A reader who looks at a fragment finds a placeholder for each
of its values, the spare ones among them, in their order. With the values written into these places the fragment is
that of the statement that was written without placeholders.
-/

namespace SqlBuilder

variable (r : Reading) (good : Value → Prop) (write : Value → String)

/-- One outline gives both fragments: with placeholders in the places of its values the first one, and with the
values written there the second one, as long as all of them are good. -/
def Fills (vs : List Value) (q q' : Query) : Prop :=
  ∃ o : Outline, r.Reads none o ∧ q.sql.toList = o.marked ∧ o.values = vs ∧
    ((∀ v ∈ vs, good v) → q'.sql.toList = o.filled fun v => (write v).toList) ∧ q'.bindings = []

/-- The refit writes values into their places, in fragments of SQL as a reader finds them. -/
structure Refit.WritesInto (f : Refit) (V : Vocabulary) : Prop where
  special : V.special = r.special
  bare : ∀ s bindings, V.bare s bindings → V.fragment s bindings
  final : ∀ s bindings, V.fragment s bindings → r.final none s.toList = none
  openMarks : ∀ s bindings, V.fragment s bindings → r.openMarks none s.toList = bindings.length
  fragment : ∀ s bindings, V.fragment s bindings → (∀ v ∈ bindings, good v) →
    (f.fragment s bindings).1.toList = (r.outline none s.toList bindings).filled fun v => (write v).toList
  fragment_bindings : ∀ s bindings, (f.fragment s bindings).2 = []
  bound : ∀ v, f.bound v = .raw (.text (write v)) []
  idle : ∀ v, f.idle v = v
  /-- No blanks at the ends of a value, where a clause would lose them. -/
  solid : ∀ v, good v → Text.IsSolid (write v).toList

namespace Fills

variable {r good write} {vs ws : List Value} {p p' q q' : Query}

/-- Text without values. -/
theorem of_chars {s : String} (h : r.Reads none (.ofChars s.toList)) :
    Fills r good write [] (.plain s) (.plain s) :=
  ⟨.ofChars s.toList, h, (Outline.marked_ofChars _).symm, Outline.values_ofChars _,
    fun _ => (Outline.filled_ofChars _).symm, rfl⟩

theorem append (hp : Fills r good write vs p p') (hq : Fills r good write ws q q') :
    Fills r good write (vs ++ ws) (p ++ q) (p' ++ q') := by
  obtain ⟨o, ho, hsql, hvalues, hwritten, hnone⟩ := hp
  obtain ⟨o₂, ho₂, hsql₂, hvalues₂, hwritten₂, hnone₂⟩ := hq
  refine ⟨o ++ o₂, ho.append ho₂, ?_, ?_, fun hgood => ?_, ?_⟩
  · rw [Query.sql_append, String.toList_append, hsql, hsql₂, Outline.marked_append]
  · rw [Outline.values_append, hvalues, hvalues₂]
  · rw [Query.sql_append, String.toList_append, Outline.filled_append,
      hwritten fun v hv => hgood v (List.mem_append_left ws hv),
      hwritten₂ fun v hv => hgood v (List.mem_append_right vs hv)]
  · rw [Query.bindings_append, hnone, hnone₂, List.append_nil]

theorem strip (hsolid : ∀ v, good v → Text.IsSolid (write v).toList) (hq : Fills r good write vs q q') :
    Fills r good write vs q.strip q'.strip := by
  obtain ⟨o, ho, hsql, hvalues, hwritten, hnone⟩ := hq
  refine ⟨o.strip, ho.strip, ?_, ?_, fun hgood => ?_, hnone⟩
  · rw [Query.strip, Text.strip, String.toList_ofList, hsql, Outline.stripChars_marked]
  · rw [Outline.values_strip, hvalues]
  · rw [Query.strip, Text.strip, String.toList_ofList, hwritten hgood]
    exact Outline.stripChars_filled fun v hv => hsolid v (hgood v (hvalues ▸ hv))

end Fills

/-- A value in its place. -/
theorem Reading.reads_value (v : Value) : r.Reads none [.inr v] := ⟨rfl, rfl⟩

variable {r good write} {f : Refit} {V : Vocabulary}

theorem Refit.WritesInto.fills_fragment (h : f.WritesInto r good write V) {s : String} {bindings : List Value}
    (hs : V.fragment s bindings) (others : List Value) :
    Fills r good write bindings ⟨s, others⟩ ⟨(f.fragment s bindings).1, []⟩ := by
  obtain ⟨hreads, hmarked, hvalues⟩ := Reading.outline_spec (h.final s bindings hs) (h.openMarks s bindings hs)
  exact ⟨r.outline none s.toList bindings, hreads, hmarked.symm, hvalues, h.fragment s bindings hs, rfl⟩

theorem Refit.WritesInto.respects (h : f.WritesInto r good write V) (e : Engine) :
    V.Respects f true e e (Fills r good write) where
  text s hs := Fills.of_chars (Reading.reads_ofChars fun c hc => h.special ▸ hs c hc)
  quoted part hpart := by
    refine Fills.of_chars ?_
    rw [String.toList_ofList]
    exact Reading.reads_name e fun c hc => h.special ▸ hpart c hc
  layout := .inl Iff.rfl
  append := Fills.append
  strip := Fills.strip h.solid
  fragment s bindings hs := by
    rw [h.fragment_bindings]
    exact h.fills_fragment hs bindings
  bare s bindings hs := h.fills_fragment (h.bare s bindings hs) []
  bound v _ := by
    rw [h.bound, operandOf, fragmentOf, Value.written_raw_text]
    have hmark : "?".toList = ['?'] := by decide
    refine ⟨[.inr v], r.reads_value v, hmark, rfl, fun _ => ?_, rfl⟩
    simp
  bound_items v _ := by rw [h.bound]; rfl
  idle_isRaw v hv := by rw [h.idle, hv]
  idle_items v hv := by rw [h.idle, hv]

namespace StatementTree

/-- A statement beside the one with its values written into place, the spare ones among them. The outline is that of
its text. -/
theorem fills_render_spare (h : f.WritesInto r good write V) (e : Engine) {t : StatementTree} {q : Query}
    (ht : t.Fits V) (hq : t.render (.ofEngine e) = .ok q) :
    r.Reads none (r.outline none q.sql.toList (t.values true)) ∧
      (r.outline none q.sql.toList (t.values true)).marked = q.sql.toList ∧
      (r.outline none q.sql.toList (t.values true)).values = t.values true ∧
      ∃ s, (t.refit f).render (.ofEngine e) = .ok (.plain s) ∧ ((∀ v ∈ t.values true, good v) →
        s.toList = (r.outline none q.sql.toList (t.values true)).filled fun v => (write v).toList) := by
  have hagree := (h.respects e).statement_self t ht
  rw [hq] at hagree
  obtain ⟨q', hq', o, ho, hsql, hvalues, hwritten, hnone⟩ := hagree.exists_ok
  have houtline : r.outline none q.sql.toList (t.values true) = o := by
    rw [hsql, ← hvalues]
    exact ho.outline_marked
  rw [houtline]
  refine ⟨ho, hsql.symm, hvalues, q'.sql, ?_, hwritten⟩
  rw [hq']
  exact congrArg Except.ok (Query.ext rfl hnone)

/-- Where no fragment of SQL is written without its values, those that are bound are all there are. -/
theorem fills_render (h : f.WritesInto r good write V) (hbare : ∀ s bindings, ¬ V.bare s bindings) (e : Engine)
    {t : StatementTree} {q : Query} (ht : t.Fits V) (hq : t.render (.ofEngine e) = .ok q) :
    q.bindings = t.boundValues ∧ r.Reads none (r.outline none q.sql.toList q.bindings) ∧
      (r.outline none q.sql.toList q.bindings).marked = q.sql.toList ∧
      (r.outline none q.sql.toList q.bindings).values = q.bindings ∧
      ∃ s, (t.refit f).render (.ofEngine e) = .ok (.plain s) ∧ ((∀ v ∈ q.bindings, good v) →
        s.toList = (r.outline none q.sql.toList q.bindings).filled fun v => (write v).toList) := by
  refine ⟨bindings_render hq, ?_⟩
  rw [← values_true_of_fits hbare ht hq]
  exact fills_render_spare h e ht hq

end StatementTree

end SqlBuilder
