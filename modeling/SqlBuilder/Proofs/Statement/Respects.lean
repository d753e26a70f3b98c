import SqlBuilder.Proofs.Agree
import SqlBuilder.Proofs.Statement.WrittenValues

/-!
Relations between the fragments of a statement and those of the same statement with its values exchanged, which may
be written for another engine. A relation respects a refit if it holds of the texts of a vocabulary, of the fragments
of SQL and the values that are exchanged, and if putting fragments together keeps it. The relation also knows the
values that belong to the fragments. What holds of the pieces then holds of names, lists and whole clauses.
-/

namespace SqlBuilder

namespace Query

def strip (q : Query) : Query := ⟨Text.strip q.sql, q.bindings⟩

def spaced (p q : Query) : Query := p.strip ++ plain " " ++ q.strip

@[simp] theorem sql_append (p q : Query) : (p ++ q).sql = p.sql ++ q.sql := rfl

@[simp] theorem bindings_append (p q : Query) : (p ++ q).bindings = p.bindings ++ q.bindings := rfl

theorem ext {p q : Query} (hsql : p.sql = q.sql) (hbindings : p.bindings = q.bindings) : p = q := by
  cases p
  cases q
  subst hsql hbindings
  rfl

theorem plain_append (s t : String) : plain (s ++ t) = plain s ++ plain t := rfl

theorem mk_append (s t : String) (bindings : List Value) :
    (⟨s ++ t, bindings⟩ : Query) = ⟨s, bindings⟩ ++ plain t := ext rfl (List.append_nil _).symm

theorem plain_dotted (front back : List Char) :
    plain (.ofList (front ++ '.' :: back)) = plain (.ofList front) ++ (plain "." ++ plain (.ofList back)) := by
  refine ext ?_ rfl
  rw [show '.' :: back = ['.'] ++ back from rfl, sql_append, sql_append, plain, String.ofList_append,
    String.ofList_append]
  rfl

theorem enclosed_eq (q : Query) : q.enclosed = plain "(" ++ q ++ plain ")" :=
  ext rfl (List.append_nil _).symm

theorem joined_cons_cons (glue : String) (p q : Query) (rest : List Query) :
    joined glue (p :: q :: rest) = p ++ plain glue ++ joined glue (q :: rest) := by
  refine ext rfl ?_
  simp [joined, plain]

theorem joined_singleton (glue : String) (q : Query) : joined glue [q] = q :=
  ext rfl (List.append_nil _)

theorem plain_joined (glue : String) (texts : List String) :
    plain (Text.joined glue texts) = joined glue (texts.map plain) := by
  refine ext ?_ ?_
  · simp [plain, joined, Function.comp_def]
  · simp [plain, joined]

/-- Clauses come together one after the other. -/
theorem clauses_eq_foldl (parts : List Query) : clauses parts = (parts.foldl spaced (plain "")).strip := by
  have hfold : ∀ (acc : Query), parts.foldl spaced acc =
      ⟨(parts.map (·.sql)).foldl Text.appendPiece acc.sql, acc.bindings ++ parts.flatMap (·.bindings)⟩ := by
    induction parts with
    | nil =>
        intro acc
        exact ext rfl (List.append_nil _).symm
    | cons q rest ih =>
        intro acc
        rw [List.foldl_cons, ih]
        refine ext rfl ?_
        simp [spaced, strip, plain]
  rw [hfold]
  exact ext rfl rfl

end Query

/-- Fragments that are related one by one, with the values of all of them. -/
inductive Parts (rel : List Value → Query → Query → Prop) : List Value → List Query → List Query → Prop
  | nil : Parts rel [] [] []
  | cons {vs ws : List Value} {q q' : Query} {qs qs' : List Query} (head : rel vs q q')
      (tail : Parts rel ws qs qs') : Parts rel (vs ++ ws) (q :: qs) (q' :: qs')

namespace Parts

variable {rel : List Value → Query → Query → Prop} {vs ws : List Value} {qs qs' ps ps' : List Query}

theorem append (h : Parts rel vs qs qs') (h' : Parts rel ws ps ps') :
    Parts rel (vs ++ ws) (qs ++ ps) (qs' ++ ps') := by
  induction h with
  | nil => exact h'
  | cons head tail ih =>
      rw [List.append_assoc]
      exact .cons head ih

theorem singleton {q q' : Query} (h : rel vs q q') : Parts rel vs [q] [q'] := by
  have h1 := Parts.cons h .nil
  rwa [List.append_nil] at h1

end Parts

/-- Fragments that are made one by one of entries and of their counterparts. -/
theorem Agree.parts {α : Type} {rel : List Value → Query → Query → Prop} {values : α → List Value}
    {make make' : α → Except Fault Query} {g : α → α} {xs : List α}
    (h : ∀ x ∈ xs, Agree (rel (values x)) (make x) (make' (g x))) :
    Agree (Parts rel (xs.flatMap values)) (xs.mapM make) ((xs.map g).mapM make') := by
  induction xs with
  | nil => exact Parts.nil
  | cons x rest ih =>
      rw [List.map_cons, List.mapM_cons, List.mapM_cons]
      refine (h x List.mem_cons_self).bind fun q q' hq => ?_
      refine (ih fun y hy => h y (List.mem_cons_of_mem x hy)).bind fun qs qs' hqs => ?_
      exact Parts.cons hq hqs

/-- Both engines have the tables that a statement reads between marks or not, and are asked for rows, and to lock
them, in the same words. -/
def Engine.SameLayout (e e' : Engine) : Prop := e = .sqlserver ↔ e' = .sqlserver

instance (e e' : Engine) : Decidable (e.SameLayout e') := inferInstanceAs (Decidable (_ ↔ _))

namespace Engine.SameLayout

variable {e e' : Engine} (h : e.SameLayout e')

include h

theorem quotesTables : (Dialect.ofEngine e).quotesTables = (Dialect.ofEngine e').quotesTables := by
  cases e <;> cases e' <;> first | rfl | exact absurd h (by decide)

theorem paging : (Dialect.ofEngine e).paging = (Dialect.ofEngine e').paging := by
  cases e <;> cases e' <;> first | rfl | exact absurd h (by decide)

theorem locksRows : (Dialect.ofEngine e).locksRows = (Dialect.ofEngine e').locksRows := by
  cases e <;> cases e' <;> first | rfl | exact absurd h (by decide)

end Engine.SameLayout

/-- The relation holds of all texts, whatever they are. -/
def TextBlind (rel : List Value → Query → Query → Prop) : Prop := ∀ s t, rel [] (.plain s) (.plain t)

/-- The relation holds of what the vocabulary allows, and putting fragments together keeps it. The values that it
knows may include the spare ones. -/
structure Vocabulary.Respects (V : Vocabulary) (f : Refit) (spare : Bool) (e e' : Engine)
    (rel : List Value → Query → Query → Prop) : Prop where
  text : ∀ s, Text.Avoids V.special s → rel [] (.plain s) (.plain s)
  /-- A part of an identifier between its marks. -/
  quoted : ∀ part : List Char, (∀ c ∈ part, c ∉ V.special) →
    rel [] (.plain (.ofList ((Dialect.ofEngine e).openMark :: part ++ [(Dialect.ofEngine e).closeMark])))
      (.plain (.ofList ((Dialect.ofEngine e').openMark :: part ++ [(Dialect.ofEngine e').closeMark])))
  layout : e.SameLayout e' ∨ TextBlind rel
  append : ∀ {vs ws p p' q q'}, rel vs p p' → rel ws q q' → rel (vs ++ ws) (p ++ q) (p' ++ q')
  strip : ∀ {vs q q'}, rel vs q q' → rel vs q.strip q'.strip
  fragment : ∀ s bindings, V.fragment s bindings →
    rel bindings ⟨s, bindings⟩ ⟨(f.fragment s bindings).1, (f.fragment s bindings).2⟩
  bare : ∀ s bindings, V.bare s bindings →
    rel (if spare then bindings else []) (.plain s) (.plain (f.fragment s bindings).1)
  bound : ∀ v, v.isRaw = false → Agree (rel [v]) (pure ⟨"?", [v]⟩) (operandOf (f.bound v))
  bound_items : ∀ v, v.items? = none → (f.bound v).items? = none
  idle_isRaw : ∀ v, v.isRaw = false → (f.idle v).isRaw = false
  idle_items : ∀ v, v.items? = none → (f.idle v).items? = none

namespace Vocabulary.Respects

variable {V : Vocabulary} {f : Refit} {spare : Bool} {rel : List Value → Query → Query → Prop}
  {e e' : Engine} (law : V.Respects f spare e e' rel) {vs : List Value} {p p' q q' : Query} {qs qs' : List Query}

include law

/-- The values are what they are, however they were put together. -/
theorem append_of_eq {us ws : List Value} (hp : rel vs p p') (hq : rel ws q q') (h : vs ++ ws = us) :
    rel us (p ++ q) (p' ++ q') := h ▸ law.append hp hq

theorem before {s : String} (hs : Text.Avoids V.special s) (h : rel vs q q') :
    rel vs (.plain s ++ q) (.plain s ++ q') := law.append (law.text s hs) h

theorem behind {s : String} (hs : Text.Avoids V.special s) (h : rel vs q q') :
    rel vs (q ++ .plain s) (q' ++ .plain s) := law.append_of_eq h (law.text s hs) (List.append_nil vs)

theorem word {s : String} (hs : Text.Avoids Text.marks s) : rel [] (.plain s) (.plain s) :=
  law.text s (V.avoids hs)

theorem enclosed (h : rel vs q q') : rel vs q.enclosed q'.enclosed := by
  rw [Query.enclosed_eq, Query.enclosed_eq]
  exact law.behind (V.avoids (by decide)) (law.before (V.avoids (by decide)) h)

theorem joined {glue : String} (hglue : Text.Avoids V.special glue) (h : Parts rel vs qs qs') :
    rel vs (Query.joined glue qs) (Query.joined glue qs') := by
  induction h with
  | nil => exact law.text "" Text.avoids_empty
  | cons head tail ih =>
      cases tail with
      | nil =>
          rw [Query.joined_singleton, Query.joined_singleton, List.append_nil]
          exact head
      | cons second rest =>
          rw [Query.joined_cons_cons, Query.joined_cons_cons]
          exact law.append (law.behind hglue head) ih

theorem clauses (h : Parts rel vs qs qs') : rel vs (Query.clauses qs) (Query.clauses qs') := by
  have hfold : ∀ us acc acc', rel us acc acc' →
      rel (us ++ vs) (qs.foldl Query.spaced acc) (qs'.foldl Query.spaced acc') := by
    induction h with
    | nil =>
        intro us acc acc' hacc
        rw [List.append_nil]
        exact hacc
    | cons head tail ih =>
        intro us acc acc' hacc
        rw [List.foldl_cons, List.foldl_cons, ← List.append_assoc]
        exact ih _ _ _ (law.append (law.behind (V.avoids (by decide)) (law.strip hacc)) (law.strip head))
  rw [Query.clauses_eq_foldl, Query.clauses_eq_foldl]
  exact law.strip (hfold [] _ _ (law.text "" Text.avoids_empty))

end Vocabulary.Respects

end SqlBuilder
