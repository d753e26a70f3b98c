import Mathlib.Algebra.GroupWithZero.Nat
import SqlBuilder.Proofs.Statement.Condition
import SqlBuilder.Proofs.Statement.Limit

/-!
Fragments of SQL as conditions. Without an operator a fragment stands alone where values are bound. In the conditions of
a join, whose operands are columns, the absent operator is written out behind it, and so is an operand.
-/

namespace SqlBuilder

/-! ### Conditions without their joiners -/

namespace Condition

def joint : Condition → Joint
  | .test joint _ _ _ => joint
  | .group joint _ => joint
  | .columns joint _ => joint

/-- What a condition is written as behind its joiner. -/
def body (d : Dialect) (qualifier : Option String) (isBound : Bool) : Condition → Except Fault Query
  | .test _ key operator operand => comparison d qualifier isBound key operator operand
  | .group _ members => do pure (Query.joined " " (← piecesOf d none true true members)).enclosed
  | .columns _ names => do pure (Query.plain (← nameList d names)).enclosed

theorem pieces_eq (d : Dialect) (qualifier : Option String) (isBound isFirst : Bool) (c : Condition) :
    c.pieces d qualifier isBound isFirst =
      (do pure ((c.joint.words isFirst).map Query.plain ++ [← c.body d qualifier isBound])) := by
  cases c with
  | test => rw [pieces, body, Condition.joint]
  | group =>
      rw [pieces, body, Condition.joint]
      simp only [bind_assoc, pure_bind]
  | columns =>
      rw [pieces, body, Condition.joint]
      simp only [bind_assoc, pure_bind]

/-- The pieces of conditions are the words of the first one, its body and the pieces of the others. -/
theorem piecesOf_cons_eq_ok {d : Dialect} {qualifier : Option String} {isBound isFirst : Bool} {c : Condition}
    {rest : List Condition} {qs : List Query} (h : piecesOf d qualifier isBound isFirst (c :: rest) = .ok qs) :
    ∃ q back, c.body d qualifier isBound = .ok q ∧ piecesOf d qualifier isBound false rest = .ok back ∧
      qs = (c.joint.words isFirst).map Query.plain ++ [q] ++ back := by
  rw [piecesOf, pieces_eq] at h
  obtain ⟨_, hfront, h⟩ := exists_ok_of_bind h
  obtain ⟨q, hq, hfront⟩ := exists_ok_of_bind hfront
  obtain ⟨back, hback, h⟩ := exists_ok_of_bind h
  cases hfront
  cases h
  exact ⟨q, back, hq, hback, rfl⟩

/-- A fragment of SQL without an operator. -/
def isVerbatim : Condition → Bool
  | .test _ key operator _ => key.isRaw && operator.isNull
  | _ => false

/-- The same where a fragment of SQL without an operator stands alone. -/
def verbatimBody (d : Dialect) : Condition → Except Fault Query
  | .test _ key operator operand =>
      if key.isRaw && operator.isNull then fragmentOf key else comparison d none false key operator operand
  | c => c.body d none false

/-- The pieces of the conditions of a join, where fragments of SQL without an operator stand alone. -/
def verbatimOf (d : Dialect) (isFirst : Bool) : List Condition → Except Fault (List Query)
  | [] => pure []
  | c :: rest => do
    let body ← c.verbatimBody d
    let back ← verbatimOf d false rest
    pure ((c.joint.words isFirst).map Query.plain ++ [body] ++ back)

/-- The expression that the conditions of a join make up, where fragments of SQL without an operator stand alone. -/
def verbatim (d : Dialect) (conditions : List Condition) : Except Fault Query := do
  pure (Query.joined " " (← verbatimOf d true conditions))

end Condition

/-! ### Fragments without an operator -/

section Fragment

variable {d : Dialect} {qualifier : Option String} {key operator operand : Value} {q : Query}

theorem comparedKey_raw (hraw : key.isRaw = true) : comparedKey d qualifier key = fragmentOf key := by
  unfold comparedKey
  rw [if_pos hraw]

/-- Where values are bound the fragment stands alone, whatever value is compared with it. -/
theorem comparison_bound_verbatim (hraw : key.isRaw = true) (hnull : operator.isNull = true)
    (hoperand : operand.isRaw = false) (hitems : operand.items? = none) :
    comparison d qualifier true key operator operand = fragmentOf key := by
  unfold comparison
  rw [comparedKey_raw hraw, hitems]
  cases fragmentOf key with
  | error fault => rfl
  | ok left => simp [hraw, hnull, hoperand, pure, Except.pure, bind, Except.bind]

/-- In the conditions of a join an operator and an operand are written behind the fragment. -/
theorem comparison_unbound_verbatim (hraw : key.isRaw = true) (hnull : operator.isNull = true)
    (h : comparison d qualifier false key operator operand = .ok q) :
    ∃ left right, fragmentOf key = .ok left ∧ q = left ++ .plain " None " ++ right ∧
      (operand.isNull = true → right = .plain "NULL") := by
  obtain rfl : operator = .null := by
    cases operator with
    | null => rfl
    | _ => cases hnull
  have hoperator : Value.written .null = .ok "None" := rfl
  rcases hitems : operand.items? with _ | items
  · rw [comparison_of_items?_none hitems, comparedKey_raw hraw] at h
    obtain ⟨left, hleft, h⟩ := exists_ok_of_bind h
    rw [Bool.false_and, Bool.false_and, Bool.false_and, if_neg Bool.false_ne_true] at h
    obtain ⟨right, hright, h⟩ := exists_ok_of_bind h
    unfold withOperator at h
    rw [hoperator] at h
    cases h
    refine ⟨left, right, hleft, rfl, fun hoperand => ?_⟩
    cases operand with
    | null =>
        cases hright
        rfl
    | _ => cases hoperand
  · have hbetween : Value.same .null (.text "BETWEEN") = false := rfl
    rw [comparison_of_items? hitems, comparedKey_raw hraw] at h
    obtain ⟨left, hleft, h⟩ := exists_ok_of_bind h
    unfold comparedItems at h
    rw [hbetween, if_neg Bool.false_ne_true] at h
    obtain ⟨operands, -, h⟩ := exists_ok_of_bind h
    rw [hoperator] at h
    cases h
    refine ⟨left, operands.enclosed, hleft, rfl, fun hoperand => ?_⟩
    cases operand with
    | null => cases hitems
    | _ => cases hoperand

end Fragment

namespace Condition

variable {d : Dialect} {qualifier : Option String} {isBound isFirst : Bool} {c : Condition}
  {conditions : List Condition} {q : Query} {qs : List Query}

/-! ### The conditions of a join -/

/-- A fragment without an operator has more text than its own, and any other condition has its own. -/
theorem verbatimBody_of_body (h : c.body d none false = .ok q) : ∃ p, c.verbatimBody d = .ok p ∧
    if c.isVerbatim then p.sql.length < q.sql.length else p = q := by
  cases c with
  | test joint key operator operand =>
      rw [verbatimBody, isVerbatim]
      cases hverbatim : key.isRaw && operator.isNull with
      | false => exact ⟨q, h, rfl⟩
      | true =>
          obtain ⟨hraw, hnull⟩ := Bool.and_eq_true_iff.1 hverbatim
          obtain ⟨left, right, hleft, rfl, -⟩ := comparison_unbound_verbatim hraw hnull h
          have hlength : (left ++ .plain " None " ++ right).sql.length = left.sql.length + 6 + right.sql.length := by
            rw [Query.sql_append, Query.sql_append, String.length_append, String.length_append]
            rfl
          refine ⟨left, hleft, ?_⟩
          rw [if_pos rfl, hlength]
          omega
  | group joint members => exact ⟨q, h, rfl⟩
  | columns joint names => exact ⟨q, h, rfl⟩

/-- How much text there is in the pieces. -/
def size (pieces : List Query) : Nat := (pieces.map fun piece => piece.sql.length).sum

/-- There is more text for every fragment without an operator. -/
theorem verbatimOf_of_piecesOf (h : piecesOf d none false isFirst conditions = .ok qs) :
    ∃ ps, verbatimOf d isFirst conditions = .ok ps ∧ ps.length = qs.length ∧
      size ps + conditions.countP isVerbatim ≤ size qs ∧ (conditions.countP isVerbatim = 0 → ps = qs) := by
  induction conditions generalizing isFirst qs with
  | nil =>
      rw [piecesOf] at h
      cases h
      exact ⟨[], rfl, rfl, Nat.le_refl _, fun _ => rfl⟩
  | cons c rest ih =>
      obtain ⟨q, back, hq, hback, rfl⟩ := piecesOf_cons_eq_ok h
      obtain ⟨p, hp, hpq⟩ := verbatimBody_of_body hq
      obtain ⟨ps, hps, hlength, hsize, hsame⟩ := ih hback
      refine ⟨(c.joint.words isFirst).map Query.plain ++ [p] ++ ps, ?_, ?_, ?_, fun hnone => ?_⟩
      · rw [verbatimOf, hp]
        change (verbatimOf d false rest >>= _) = _
        rw [hps]
        rfl
      · simp only [List.length_append, List.length_singleton, hlength]
      · have hcons : ∀ (x : Query) (xs : List Query), size ((c.joint.words isFirst).map Query.plain ++ [x] ++ xs) =
            size ((c.joint.words isFirst).map Query.plain) + x.sql.length + size xs := fun x xs => by
          simp only [size, List.map_append, List.sum_append, List.map_cons, List.map_nil, List.sum_cons, List.sum_nil,
            Nat.add_zero]
        rw [hcons, hcons, List.countP_cons]
        split at hpq
        · rw [if_pos ‹_›]
          omega
        · rw [if_neg ‹_›, hpq]
          omega
      · rw [List.countP_cons] at hnone
        split at hpq
        · rw [if_pos ‹_›] at hnone
          omega
        · rw [hpq, hsame (Nat.add_eq_zero_iff.1 hnone).1]

/-- Pieces with spaces in between have their own text and the spaces. -/
theorem length_joined (glue : String) {pieces : List Query} (h : pieces ≠ []) :
    (Query.joined glue pieces).sql.length + glue.length = size pieces + pieces.length * glue.length := by
  induction pieces with
  | nil => exact absurd rfl h
  | cons piece rest ih =>
      cases rest with
      | nil =>
          rw [Query.joined_singleton]
          simp [size]
      | cons next rest =>
          rw [Query.joined_cons_cons, Query.sql_append, Query.sql_append, String.length_append, String.length_append]
          have hrest := ih (List.cons_ne_nil next rest)
          have hsize : size (piece :: next :: rest) = piece.sql.length + size (next :: rest) := by simp [size]
          have hglue : (Query.plain glue).sql.length = glue.length := rfl
          rw [hsize, hglue, List.length_cons, Nat.add_mul]
          omega

/-- The conditions of a join stand in it as declared exactly if every fragment among them has an operator. -/
theorem verbatim_of_expression (h : expression d none false conditions = .ok q) :
    ∃ p, verbatim d conditions = .ok p ∧ (q = p ↔ ∀ c ∈ conditions, c.isVerbatim = false) := by
  unfold expression at h
  obtain ⟨qs, hqs, h⟩ := exists_ok_of_bind h
  cases h
  obtain ⟨ps, hps, hlength, hsize, hsame⟩ := verbatimOf_of_piecesOf hqs
  refine ⟨Query.joined " " ps, ?_, fun heq => ?_, fun hnone => ?_⟩
  · unfold verbatim
    rw [hps]
    rfl
  · have hzero : conditions.countP isVerbatim = 0 := by
      cases ps with
      | nil =>
          obtain rfl := List.length_eq_zero_iff.1 hlength.symm
          exact (Nat.add_eq_zero_iff.1 (Nat.le_zero.1 hsize)).2
      | cons piece rest =>
          have hne : piece :: rest ≠ [] := List.cons_ne_nil piece rest
          have hne' : qs ≠ [] := fun hnil => hne (List.length_eq_zero_iff.1 (hlength.trans (by rw [hnil]; rfl)))
          have hp := length_joined " " hne
          have hq := length_joined " " hne'
          rw [heq] at hq
          rw [hlength] at hp
          omega
    intro c hc
    exact Bool.eq_false_iff.2 (List.countP_eq_zero.1 hzero c hc)
  · rw [hsame (List.countP_eq_zero.2 fun c hc => Bool.eq_false_iff.1 (hnone c hc))]

/-- Every condition of an expression has been written. -/
theorem exists_body_of_mem (h : piecesOf d qualifier isBound isFirst conditions = .ok qs) (hmem : c ∈ conditions) :
    ∃ q, c.body d qualifier isBound = .ok q := by
  induction conditions generalizing isFirst qs with
  | nil => cases hmem
  | cons first rest ih =>
      obtain ⟨q, back, hq, hback, -⟩ := piecesOf_cons_eq_ok h
      rcases List.mem_cons.1 hmem with rfl | hmem
      · exact ⟨q, hq⟩
      · exact ih hback hmem

/-- A fragment that is all there is to a condition: with values bound, and in a join. -/
theorem exists_fragment_of_expression {joint : Joint} {key : Value} (h : expression d none false conditions = .ok q)
    (hmem : .test joint key .null .null ∈ conditions) (hraw : key.isRaw = true) :
    ∃ fragment, fragmentOf key = .ok fragment ∧ comparison d none true key .null .null = .ok fragment ∧
      comparison d none false key .null .null = .ok (fragment ++ .plain " None NULL") := by
  unfold expression at h
  obtain ⟨qs, hqs, -⟩ := exists_ok_of_bind h
  obtain ⟨p, hp⟩ := exists_body_of_mem hqs hmem
  replace hp : comparison d none false key .null .null = .ok p := hp
  obtain ⟨left, right, hleft, hpieces, hright⟩ := comparison_unbound_verbatim hraw rfl hp
  have hbehind : left ++ .plain " None " ++ .plain "NULL" = left ++ .plain " None NULL" :=
    Query.ext (by simp [Query.plain, String.append_assoc]) (by simp [Query.plain])
  rw [hright rfl, hbehind] at hpieces
  exact ⟨left, hleft, (comparison_bound_verbatim hraw rfl rfl rfl).trans hleft, hp.trans (congrArg Except.ok hpieces)⟩

end Condition

end SqlBuilder
