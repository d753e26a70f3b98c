import SqlBuilder.Proofs.Placeholder.Directives
import SqlBuilder.Proofs.Statement.Unambiguous
import Mathlib.Algebra.GroupWithZero.Nat

/-!
The qualifier of columns that have none of their own. It is put in front of the columns of a list of conditions, but not
in front of those in their groups. With the qualifier carried into the groups, at every depth, the text of the
conditions would have it once more for every such column in a group.
-/

namespace SqlBuilder

/-! ### Columns without a qualifier -/

namespace Dialect

/-- The column has no qualifier of its own. -/
def isUnqualified (d : Dialect) (key : Value) : Bool :=
  !key.isRaw && match d.identifier key with
    | .ok name => !name.toList.contains '.'
    | .error _ => false

/-- Marks bring no dot into a name and take none out of it. -/
theorem contains_dot_quoteName_eq (e : Engine) (name : List Char) :
    ((ofEngine e).quoteName name).contains '.' = name.contains '.' := by
  by_cases hdot : '.' ∈ name
  · obtain ⟨front, behind, rfl, hfront⟩ := List.eq_append_cons_of_mem hdot
    rw [quoteName, Text.splitFirstChars_append hfront]
    simp
  · rw [quoteName, Text.splitFirstChars_of_not_mem hdot]
    exact contains_dot_quotePart e name

end Dialect

/-! ### A word that is put in -/

/-- The second query is the first one with the word put in at so many places. -/
inductive Query.Inserted (word : String) : Nat → Query → Query → Prop
  | same (q : Query) : Inserted word 0 q q
  | word : Inserted word 1 (.plain "") (.plain word)
  | append {m n : Nat} {p p' q q' : Query} (front : Inserted word m p p') (back : Inserted word n q q') :
      Inserted word (m + n) (p ++ q) (p' ++ q')

namespace Query.Inserted

variable {word : String} {m n : Nat} {p p' q q' : Query}

theorem before (s : String) (h : Inserted word n p q) : Inserted word n (.plain s ++ p) (.plain s ++ q) :=
  Nat.zero_add n ▸ append (same _) h

theorem behind (h : Inserted word n p q) (r : Query) : Inserted word n (p ++ r) (q ++ r) := append h (same r)

theorem enclosed (h : Inserted word n p q) : Inserted word n p.enclosed q.enclosed := by
  rw [enclosed_eq, enclosed_eq]
  exact (h.before "(").behind (.plain ")")

/-- The word stands in front of the text. -/
theorem leading (word s : String) : Inserted word 1 (.plain s) (.plain (word ++ s)) := by
  have hword : Inserted word 1 (.plain "") (.plain word) := .word
  have h := hword.behind (.plain s)
  rwa [← plain_append, ← plain_append, String.empty_append] at h

theorem bindings (h : Inserted word n p q) : q.bindings = p.bindings := by
  induction h with
  | same q => rfl
  | word => rfl
  | append _ _ hfront hback => rw [bindings_append, bindings_append, hfront, hback]

theorem length (h : Inserted word n p q) : q.sql.length = p.sql.length + n * word.length := by
  induction h with
  | same q => simp
  | word => simp [plain]
  | append _ _ hfront hback =>
      rw [sql_append, sql_append, String.length_append, String.length_append, hfront, hback, Nat.add_mul]
      omega

theorem eq_of_zero (h : Inserted word n p q) (hn : n = 0) : p = q := by
  induction h with
  | same q => rfl
  | word => cases hn
  | append _ _ hfront hback =>
      obtain ⟨hm, hn⟩ := Nat.add_eq_zero_iff.1 hn
      rw [hfront hm, hback hn]

/-- A text with a word put in is another one. -/
theorem eq_iff (h : Inserted word n p q) (hword : word ≠ "") : p = q ↔ n = 0 := by
  refine ⟨fun heq => ?_, h.eq_of_zero⟩
  have hlength := h.length
  rw [heq, Nat.left_eq_add, Nat.mul_eq_zero] at hlength
  exact hlength.resolve_right fun hempty => hword (String.length_eq_zero_iff.1 hempty)

end Query.Inserted

/-- Queries one by one with a word put in, and how often in all of them. -/
inductive Query.InsertedAll (word : String) : Nat → List Query → List Query → Prop
  | nil : InsertedAll word 0 [] []
  | cons {m n : Nat} {p q : Query} {ps qs : List Query} (head : Inserted word m p q)
      (tail : InsertedAll word n ps qs) : InsertedAll word (m + n) (p :: ps) (q :: qs)

namespace Query.InsertedAll

variable {word : String} {m n : Nat} {ps ps' qs qs' : List Query}

theorem append (h : InsertedAll word m ps qs) (h' : InsertedAll word n ps' qs') :
    InsertedAll word (m + n) (ps ++ ps') (qs ++ qs') := by
  induction h with
  | nil =>
      rw [Nat.zero_add]
      exact h'
  | cons head _ ih =>
      rw [Nat.add_assoc]
      exact .cons head ih

theorem same (ps : List Query) : InsertedAll word 0 ps ps := by
  induction ps with
  | nil => exact .nil
  | cons p ps ih => exact .cons (.same p) ih

theorem singleton {p q : Query} (h : Inserted word n p q) : InsertedAll word n [p] [q] := .cons h .nil

theorem joined (glue : String) (h : InsertedAll word n ps qs) :
    Inserted word n (Query.joined glue ps) (Query.joined glue qs) := by
  induction h with
  | nil => exact .same _
  | cons head tail ih =>
      cases tail with
      | nil =>
          rw [joined_singleton, joined_singleton]
          exact head
      | cons =>
          rw [joined_cons_cons, joined_cons_cons]
          exact (head.behind (.plain glue)).append ih

end Query.InsertedAll

/-! ### Comparisons -/

open Query

variable {n : Nat} {left left' : Query}

/-- A column without a qualifier gets it once, any other key never. -/
theorem inserted_comparedKey (d : Dialect) (a : String) (key : Value) :
    Agree (Inserted (a ++ ".") (d.isUnqualified key).toNat) (comparedKey d none key) (comparedKey d (some a) key) := by
  unfold comparedKey Dialect.isUnqualified
  cases key.isRaw with
  | true => exact .refl Inserted.same _
  | false =>
      cases d.identifier key with
      | error fault => exact rfl
      | ok name =>
          cases hdot : name.toList.contains '.' with
          | true =>
              change Inserted _ (!name.toList.contains '.').toNat _ (plain (if name.toList.contains '.' then _ else _))
              rw [hdot]
              exact .same _
          | false =>
              change Inserted _ (!name.toList.contains '.').toNat _ (plain (if name.toList.contains '.' then _ else _))
              rw [hdot]
              exact .leading _ _

theorem inserted_comparedItems {word : String} (h : Inserted word n left left') (operator : Value)
    (items : List Value) :
    Agree (Inserted word n) (comparedItems left operator items) (comparedItems left' operator items) := by
  unfold comparedItems
  split
  · match items with
    | [] => exact rfl
    | [low] => exact (Agree.same (operandOf low)).bind fun _ _ _ => rfl
    | low :: high :: rest =>
        refine (Agree.same (operandOf low)).bind fun p p' hp => ?_
        refine (Agree.same (operandOf high)).bind fun q q' hq => ?_
        subst hp hq
        exact Agree.pure ((((h.behind _).behind p).behind _).behind q)
  · refine (Agree.same (operandsOf items)).bind fun p p' hp => ?_
    refine (Agree.same operator.written).bind fun s s' hs => ?_
    subst hp hs
    exact Agree.pure ((h.behind _).behind _)

theorem inserted_withOperator {word : String} (h : Inserted word n left left') (operator : Value) (right : Query) :
    Agree (Inserted word n) (withOperator left operator right) (withOperator left' operator right) := by
  refine (Agree.same operator.written).bind fun s s' hs => ?_
  subst hs
  exact Agree.pure ((h.behind _).behind right)

/-- Nothing but the left side of a comparison depends on the qualifier. -/
theorem inserted_comparison (d : Dialect) (a : String) (isBound : Bool) (key operator operand : Value) :
    Agree (Inserted (a ++ ".") (d.isUnqualified key).toNat) (comparison d none isBound key operator operand)
      (comparison d (some a) isBound key operator operand) := by
  cases hitems : operand.items? with
  | some items =>
      rw [comparison_of_items? hitems, comparison_of_items? hitems]
      exact (inserted_comparedKey d a key).bind fun _ _ h => inserted_comparedItems h operator items
  | none =>
      rw [comparison_of_items?_none hitems, comparison_of_items?_none hitems]
      refine (inserted_comparedKey d a key).bind fun _ _ h => ?_
      split
      · exact Agree.pure h
      · refine (Agree.same (rightSide d isBound operand)).bind fun q q' hq => ?_
        subst hq
        exact inserted_withOperator h operator q

/-! ### Conditions -/

namespace Condition

mutual

/-- The pieces of a condition with the qualifier in front of its columns at every depth. -/
def uniform (d : Dialect) (a : String) (isFirst : Bool) : Condition → Except Fault (List Query)
  | .test joint key operator operand => do
    let body ← comparison d (some a) true key operator operand
    pure ((joint.words isFirst).map Query.plain ++ [body])
  | .group joint members => do
    let body ← uniformOf d a true members
    pure ((joint.words isFirst).map Query.plain ++ [(Query.joined " " body).enclosed])
  | .columns joint names => do
    let body ← nameList d names
    pure ((joint.words isFirst).map Query.plain ++ [(Query.plain body).enclosed])

/-- The pieces of conditions that follow each other, with the qualifier at every depth. -/
def uniformOf (d : Dialect) (a : String) (isFirst : Bool) : List Condition → Except Fault (List Query)
  | [] => pure []
  | c :: rest => do
    let front ← uniform d a isFirst c
    let back ← uniformOf d a false rest
    pure (front ++ back)

end

/-- The clause with the qualifier at every depth. -/
def uniformClause (d : Dialect) (a keyword : String) (conditions : List Condition) : Except Fault Query := do
  if conditions.isEmpty then pure (.plain "")
  else pure (.plain (keyword ++ " ") ++ .joined " " (← uniformOf d a true conditions))

mutual

/-- How many columns without a qualifier a condition has at every depth. -/
def bare (d : Dialect) : Condition → Nat
  | .test _ key _ _ => (d.isUnqualified key).toNat
  | .group _ members => bareOf d members
  | .columns _ _ => 0

def bareOf (d : Dialect) : List Condition → Nat
  | [] => 0
  | c :: rest => bare d c + bareOf d rest

end

/-- How many of them are not in a group. -/
def exposed (d : Dialect) : Condition → Nat
  | .test _ key _ _ => (d.isUnqualified key).toNat
  | _ => 0

/-- How many of them are in a group. -/
def sheltered (d : Dialect) : Condition → Nat
  | .group _ members => bareOf d members
  | _ => 0

def exposedOf (d : Dialect) (conditions : List Condition) : Nat := (conditions.map (exposed d)).sum

def shelteredOf (d : Dialect) (conditions : List Condition) : Nat := (conditions.map (sheltered d)).sum

/-- A piece behind the words of its condition. -/
theorem inserted_piece {word : String} (words : List Query) {make make' : Except Fault Query}
    (h : Agree (Inserted word n) make make') :
    Agree (InsertedAll word n) (do pure (words ++ [← make])) (do pure (words ++ [← make'])) := by
  refine h.bind fun p q hq => Agree.pure ?_
  rw [← Nat.zero_add n]
  exact (InsertedAll.same words).append (.singleton hq)

mutual

/-- Without a qualifier all of them are bare. -/
theorem inserted_pieces (d : Dialect) (a : String) (isFirst : Bool) : ∀ c : Condition,
    Agree (InsertedAll (a ++ ".") (c.bare d)) (c.pieces d none true isFirst) (c.uniform d a isFirst)
  | .test joint key operator operand => by
      rw [pieces, uniform, bare]
      exact inserted_piece _ (inserted_comparison d a true key operator operand)
  | .group joint members => by
      rw [pieces, uniform, bare]
      refine (inserted_piecesOf d a true members).bind fun ps qs h => ?_
      exact inserted_piece _ (Agree.pure (h.joined " ").enclosed)
  | .columns joint names => by
      rw [pieces, uniform, bare]
      exact .refl InsertedAll.same _

theorem inserted_piecesOf (d : Dialect) (a : String) (isFirst : Bool) : ∀ conditions : List Condition,
    Agree (InsertedAll (a ++ ".") (bareOf d conditions)) (piecesOf d none true isFirst conditions)
      (uniformOf d a isFirst conditions)
  | [] => by
      rw [piecesOf, uniformOf, bareOf]
      exact Agree.pure .nil
  | c :: rest => by
      rw [piecesOf, uniformOf, bareOf]
      refine (inserted_pieces d a isFirst c).bind fun _ _ hfront => ?_
      refine (inserted_piecesOf d a false rest).bind fun _ _ hback => ?_
      exact Agree.pure (hfront.append hback)

end

/-- The qualifier is put in front of those that are not in a group. -/
theorem inserted_exposed (d : Dialect) (a : String) (isFirst : Bool) (c : Condition) :
    Agree (InsertedAll (a ++ ".") (c.exposed d)) (c.pieces d none true isFirst)
      (c.pieces d (some a) true isFirst) := by
  cases c with
  | test joint key operator operand =>
      rw [pieces, pieces]
      exact inserted_piece _ (inserted_comparison d a true key operator operand)
  | group joint members =>
      rw [pieces, pieces]
      exact .refl InsertedAll.same _
  | columns joint names =>
      rw [pieces, pieces]
      exact .refl InsertedAll.same _

/-- Those in a group have it only if it is carried there. -/
theorem inserted_sheltered (d : Dialect) (a : String) (isFirst : Bool) (c : Condition) :
    Agree (InsertedAll (a ++ ".") (c.sheltered d)) (c.pieces d (some a) true isFirst) (c.uniform d a isFirst) := by
  cases c with
  | test joint key operator operand =>
      rw [pieces, uniform]
      exact .refl InsertedAll.same _
  | group joint members =>
      have hgroup := inserted_pieces d a isFirst (.group joint members)
      rw [pieces, bare] at hgroup
      rwa [pieces]
  | columns joint names =>
      rw [pieces, uniform]
      exact .refl InsertedAll.same _

theorem inserted_exposedOf (d : Dialect) (a : String) (isFirst : Bool) (conditions : List Condition) :
    Agree (InsertedAll (a ++ ".") (exposedOf d conditions)) (piecesOf d none true isFirst conditions)
      (piecesOf d (some a) true isFirst conditions) := by
  induction conditions generalizing isFirst with
  | nil =>
      rw [piecesOf, piecesOf]
      exact Agree.pure .nil
  | cons c rest ih =>
      rw [piecesOf, piecesOf]
      refine (inserted_exposed d a isFirst c).bind fun _ _ hfront => ?_
      exact (ih false).bind fun _ _ hback => Agree.pure (hfront.append hback)

theorem inserted_shelteredOf (d : Dialect) (a : String) (isFirst : Bool) (conditions : List Condition) :
    Agree (InsertedAll (a ++ ".") (shelteredOf d conditions)) (piecesOf d (some a) true isFirst conditions)
      (uniformOf d a isFirst conditions) := by
  induction conditions generalizing isFirst with
  | nil =>
      rw [piecesOf, uniformOf]
      exact Agree.pure .nil
  | cons c rest ih =>
      rw [piecesOf, uniformOf]
      refine (inserted_sheltered d a isFirst c).bind fun _ _ hfront => ?_
      exact (ih false).bind fun _ _ hback => Agree.pure (hfront.append hback)

/-- The clause without the qualifier, with it, and with it at every depth. -/
theorem clause_cases (d : Dialect) (a keyword : String) (conditions : List Condition) :
    Agree (Inserted (a ++ ".") (exposedOf d conditions)) (clause d none keyword conditions)
        (clause d (some a) keyword conditions) ∧
      Agree (Inserted (a ++ ".") (shelteredOf d conditions)) (clause d (some a) keyword conditions)
        (uniformClause d a keyword conditions) := by
  have hbehind : ∀ {n : Nat} {make make' : Except Fault (List Query)},
      Agree (InsertedAll (a ++ ".") n) make make' → Agree (Inserted (a ++ ".") n)
        (do pure (.plain (keyword ++ " ") ++ .joined " " (← make)))
        (do pure (.plain (keyword ++ " ") ++ .joined " " (← make'))) :=
    fun h => h.bind fun _ _ hpieces => Agree.pure ((hpieces.joined " ").before _)
  unfold clause uniformClause expression
  cases conditions with
  | nil => exact ⟨Agree.pure (.same _), Agree.pure (.same _)⟩
  | cons c rest =>
      simp only [List.isEmpty_cons, Bool.false_eq_true, if_false, bind_assoc, pure_bind]
      exact ⟨hbehind (inserted_exposedOf d a true (c :: rest)), hbehind (inserted_shelteredOf d a true (c :: rest))⟩

end Condition

end SqlBuilder
