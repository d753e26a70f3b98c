import SqlBuilder.Proofs.Statement.Unambiguous
import SqlBuilder.Proofs.Statement.Verbatim
import Mathlib.Data.List.Chain
import Mathlib.Data.List.Forall2

/-!
The grammar of conditions. Conditions are written as a sentence of it if every sequence and every group among them has
a member. One without a member leaves a pair of parentheses with nothing in between, which no sentence has.
-/

namespace SqlBuilder

/-! ### Sentences -/

/-- The terminal symbols that conditions are made up of. -/
structure Terminals where
  /-- What may stand in front of the first condition. -/
  opening : String → Prop
  /-- What links a condition to those in front of it. -/
  joiner : String → Prop
  operator : String → Prop
  /-- Keys, operands, and fragments of SQL that stand alone. -/
  term : Query → Prop

namespace Terminals

mutual

/-- A condition without a joiner. -/
inductive Criterion (T : Terminals) : Query → Prop
  | alone {q : Query} (hq : T.term q) : Criterion T q
  | compared {left right : Query} {operator : String} (hleft : T.term left) (hoperator : T.operator operator)
      (hright : T.term right) : Criterion T (left ++ .plain (" " ++ operator ++ " ") ++ right)
  | between {left low high : Query} (hleft : T.term left) (hlow : T.term low) (hhigh : T.term high) :
      Criterion T (left ++ .plain " BETWEEN " ++ low ++ .plain " AND " ++ high)
  | listed {left : Query} {operator : String} {operands : List Query} (hleft : T.term left)
      (hoperator : T.operator operator) (hne : operands ≠ []) (hoperands : ∀ q ∈ operands, T.term q) :
      Criterion T (left ++ .plain (" " ++ operator ++ " ") ++ (Query.joined ", " operands).enclosed)
  | columns {names : List Query} (hne : names ≠ []) (hnames : ∀ q ∈ names, T.term q) :
      Criterion T (Query.joined ", " names).enclosed
  | group {q : Query} (hq : Criteria T q) : Criterion T q.enclosed

/-- At least one condition, and a joiner between each of them and the next. -/
inductive Criteria (T : Terminals) : Query → Prop
  | first {q : Query} (hq : Criterion T q) : Criteria T q
  | opened {word : String} {q : Query} (hword : T.opening word) (hq : Criteria T q) :
      Criteria T (.plain (word ++ " ") ++ q)
  | more {p q : Query} {joiner : String} (hp : Criteria T p) (hjoiner : T.joiner joiner) (hq : Criterion T q) :
      Criteria T (p ++ .plain (" " ++ joiner ++ " ") ++ q)

end

end Terminals

/-! ### Conditions with members -/

namespace Condition

mutual

/-- Every sequence and every group in the condition has a member. -/
def isFilled : Condition → Bool
  | .test _ _ _ operand => operand.items?.all fun items => !items.isEmpty
  | .group _ members => !members.isEmpty && areFilled members
  | .columns _ names => !names.isEmpty

def areFilled : List Condition → Bool
  | [] => true
  | c :: rest => c.isFilled && areFilled rest

end

end Condition

/-- What the joint is written as is among the symbols. -/
structure Joint.Within (T : Terminals) (joint : Joint) : Prop where
  opening : ∀ word ∈ joint.words true, T.opening word
  nonempty : joint.joiner ≠ ""
  joiner : T.joiner joint.joiner

namespace Condition

mutual

/-- What the condition is written with is among the symbols. -/
def Within (T : Terminals) (d : Dialect) (qualifier : Option String) : Condition → Prop
  | .test joint key operator operand =>
    joint.Within T ∧ (∀ q, comparedKey d qualifier key = .ok q → T.term q) ∧
      (∀ word, operator.written = .ok word → T.operator word) ∧
      ∀ v ∈ operand.items?.getD [operand], ∀ q, operandOf v = .ok q → T.term q
  | .group joint members => joint.Within T ∧ AllWithin T d none members
  | .columns joint names => joint.Within T ∧ ∀ v ∈ names, ∀ name, d.identifier v = .ok name → T.term (.plain name)

def AllWithin (T : Terminals) (d : Dialect) (qualifier : Option String) : List Condition → Prop
  | [] => True
  | c :: rest => Within T d qualifier c ∧ AllWithin T d qualifier rest

end

end Condition

/-! ### Conditions with members are sentences -/

section Sentence

variable {T : Terminals} {d : Dialect} {qualifier : Option String} {key operator operand : Value} {q : Query}

theorem forall_of_mapM {α β : Type} {f : α → Except Fault β} {xs : List α} {ys : List β} {P : β → Prop}
    (h : xs.mapM f = .ok ys) (hf : ∀ x ∈ xs, ∀ y, f x = .ok y → P y) : ∀ y ∈ ys, P y := by
  have hpairs := forall₂_of_mapM h
  intro y hy
  obtain ⟨n, hn, rfl⟩ := List.mem_iff_getElem.1 hy
  have hn' : n < xs.length := hpairs.length_eq ▸ hn
  exact hf _ (List.getElem_mem hn') _ (hpairs.get hn' hn)

theorem ne_nil_of_mapM {α β : Type} {f : α → Except Fault β} {xs : List α} {ys : List β} (h : xs.mapM f = .ok ys)
    (hne : xs ≠ []) : ys ≠ [] := by
  intro hnil
  have hlength := (forall₂_of_mapM h).length_eq
  rw [hnil] at hlength
  exact hne (List.length_eq_zero_iff.1 hlength)

/-- A comparison without a sequence, or with one that has items. -/
theorem Terminals.criterion_of_comparison (hkey : ∀ q, comparedKey d qualifier key = .ok q → T.term q)
    (hoperator : ∀ word, operator.written = .ok word → T.operator word)
    (hoperand : ∀ v ∈ operand.items?.getD [operand], ∀ q, operandOf v = .ok q → T.term q)
    (hfilled : operand.items?.all (fun items => !items.isEmpty) = true)
    (h : comparison d qualifier true key operator operand = .ok q) : T.Criterion q := by
  rcases hitems : operand.items? with _ | items
  · rw [comparison_of_items?_none hitems] at h
    rw [hitems] at hoperand
    obtain ⟨left, hleft, h⟩ := exists_ok_of_bind h
    split at h
    · cases h
      exact .alone (hkey _ hleft)
    · obtain ⟨right, hright, h⟩ := exists_ok_of_bind h
      unfold withOperator at h
      obtain ⟨word, hword, h⟩ := exists_ok_of_bind h
      cases h
      rw [rightSide, Bool.or_true, if_pos rfl] at hright
      exact .compared (hkey _ hleft) (hoperator _ hword) (hoperand _ List.mem_cons_self _ hright)
  · rw [comparison_of_items? hitems] at h
    rw [hitems] at hoperand hfilled
    obtain ⟨left, hleft, h⟩ := exists_ok_of_bind h
    unfold comparedItems at h
    split at h
    · rcases items with _ | ⟨low, _ | ⟨high, rest⟩⟩
      · cases h
      · obtain ⟨low', -, h⟩ := exists_ok_of_bind h
        cases h
      · obtain ⟨low', hlow, h⟩ := exists_ok_of_bind h
        obtain ⟨high', hhigh, h⟩ := exists_ok_of_bind h
        cases h
        exact .between (hkey _ hleft) (hoperand low List.mem_cons_self _ hlow)
          (hoperand high (List.mem_cons_of_mem low List.mem_cons_self) _ hhigh)
    · obtain ⟨operands, hoperands, h⟩ := exists_ok_of_bind h
      obtain ⟨word, hword, h⟩ := exists_ok_of_bind h
      cases h
      unfold operandsOf at hoperands
      obtain ⟨parts, hparts, hoperands⟩ := exists_ok_of_bind hoperands
      cases hoperands
      have hne : items ≠ [] := fun hnil => by rw [hnil] at hfilled; cases hfilled
      exact .listed (hkey _ hleft) (hoperator _ hword) (ne_nil_of_mapM hparts hne) (forall_of_mapM hparts hoperand)

/-- The first condition, behind what stands in front of it. -/
theorem Terminals.Criterion.criteria (hq : T.Criterion q) {words : List String}
    (hwords : ∀ word ∈ words, T.opening word) : T.Criteria (Query.joined " " (words.map Query.plain ++ [q])) := by
  induction words with
  | nil =>
      rw [List.map_nil, List.nil_append, Query.joined_singleton]
      exact .first hq
  | cons word words ih =>
      have hrest := ih fun w hw => hwords w (List.mem_cons_of_mem word hw)
      have hne : words.map Query.plain ++ [q] ≠ [] := List.append_ne_nil_of_right_ne_nil _ (List.cons_ne_nil q [])
      rw [List.map_cons, List.cons_append, ← List.singleton_append,
        Query.joined_append " " (List.cons_ne_nil _ []) hne, Query.joined_singleton, ← Query.plain_append]
      exact .opened (hwords word List.mem_cons_self) hrest

/-- One more condition behind its joiner. -/
theorem Terminals.Criteria.append {joint : Joint} {front : List Query} (hfront : T.Criteria (Query.joined " " front))
    (hne : front ≠ []) (hjoint : joint.Within T) (hq : T.Criterion q) :
    T.Criteria (Query.joined " " (front ++ ((joint.words false).map Query.plain ++ [q]))) := by
  have hwords : joint.words false = [joint.joiner] := if_neg hjoint.nonempty
  have hglue : Query.joined " " front ++ .plain " " ++ (.plain joint.joiner ++ .plain " " ++ q) =
      Query.joined " " front ++ .plain (" " ++ joint.joiner ++ " ") ++ q :=
    Query.ext (by simp [Query.plain, String.append_assoc]) (by simp [Query.plain])
  rw [hwords, List.map_singleton, List.singleton_append, Query.joined_append " " hne (List.cons_ne_nil _ _),
    Query.joined_cons_cons, Query.joined_singleton, hglue]
  exact .more hfront hjoint.joiner hq

end Sentence

namespace Condition

variable {T : Terminals} {d : Dialect} {qualifier : Option String} {isFirst : Bool} {c : Condition}
  {conditions : List Condition} {q : Query} {front qs : List Query}

theorem Within.joint (h : c.Within T d qualifier) : c.joint.Within T := by
  cases c with
  | test => exact h.1
  | group => exact h.1
  | columns => exact h.1

mutual

/-- A condition with members is one of the grammar. -/
theorem criterion_of_body (qualifier : Option String) : ∀ c : Condition, c.Within T d qualifier →
    c.isFilled = true → ∀ q, c.body d qualifier true = .ok q → T.Criterion q
  | .test joint key operator operand, ⟨_, hkey, hoperator, hoperand⟩, hfilled, q, h => by
      rw [isFilled] at hfilled
      rw [body] at h
      exact T.criterion_of_comparison hkey hoperator hoperand hfilled h
  | .group joint members, ⟨_, hmembers⟩, hfilled, q, h => by
      rw [isFilled, Bool.and_eq_true, Bool.not_eq_true', List.isEmpty_eq_false_iff] at hfilled
      rw [body] at h
      obtain ⟨qs, hqs, h⟩ := exists_ok_of_bind h
      cases h
      exact .group (criteria_of_pieces none members hmembers hfilled.2 hfilled.1 qs hqs)
  | .columns joint names, ⟨_, hnames⟩, hfilled, q, h => by
      rw [isFilled, Bool.not_eq_true', List.isEmpty_eq_false_iff] at hfilled
      rw [body] at h
      obtain ⟨text, htext, h⟩ := exists_ok_of_bind h
      cases h
      unfold nameList at htext
      obtain ⟨texts, htexts, htext⟩ := exists_ok_of_bind htext
      cases htext
      rw [Query.plain_joined]
      refine .columns (fun hnil => ne_nil_of_mapM htexts hfilled (List.map_eq_nil_iff.1 hnil)) ?_
      exact List.forall_mem_map.2 (forall_of_mapM htexts hnames)

/-- Conditions behind others make up a longer sentence with them. -/
theorem criteria_append_pieces (qualifier : Option String) : ∀ conditions : List Condition,
    AllWithin T d qualifier conditions → areFilled conditions = true → ∀ front, front ≠ [] →
    T.Criteria (Query.joined " " front) → ∀ qs, piecesOf d qualifier true false conditions = .ok qs →
    T.Criteria (Query.joined " " (front ++ qs))
  | [], _, _, front, _, hfront, qs, h => by
      rw [piecesOf] at h
      cases h
      rwa [List.append_nil]
  | c :: rest, ⟨hc, hrest⟩, hfilled, front, hne, hfront, qs, h => by
      rw [areFilled, Bool.and_eq_true] at hfilled
      obtain ⟨q, back, hq, hback, rfl⟩ := piecesOf_cons_eq_ok h
      have hcriterion := criterion_of_body qualifier c hc hfilled.1 q hq
      rw [← List.append_assoc]
      exact criteria_append_pieces qualifier rest hrest hfilled.2 _ (List.append_ne_nil_of_left_ne_nil hne _)
        (hfront.append hne hc.joint hcriterion) back hback

theorem criteria_of_pieces (qualifier : Option String) : ∀ conditions : List Condition,
    AllWithin T d qualifier conditions → areFilled conditions = true → conditions ≠ [] →
    ∀ qs, piecesOf d qualifier true true conditions = .ok qs → T.Criteria (Query.joined " " qs)
  | [], _, _, hne, _, _ => absurd rfl hne
  | c :: rest, ⟨hc, hrest⟩, hfilled, _, qs, h => by
      rw [areFilled, Bool.and_eq_true] at hfilled
      obtain ⟨q, back, hq, hback, rfl⟩ := piecesOf_cons_eq_ok h
      have hcriterion := criterion_of_body qualifier c hc hfilled.1 q hq
      exact criteria_append_pieces qualifier rest hrest hfilled.2 _
        (List.append_ne_nil_of_right_ne_nil _ (List.cons_ne_nil q [])) (hcriterion.criteria hc.joint.opening) back hback

end

end Condition

/-! ### Conditions without members leave nothing in between -/

/-- A pair of parentheses in the text has nothing in between. -/
def Query.IsHollow (q : Query) : Prop := ['(', ')'] <:+: q.sql.toList

namespace Query

variable {p q : Query}

theorem IsHollow.append_left (h : q.IsHollow) (p : Query) : (p ++ q).IsHollow := by
  unfold IsHollow
  rw [toList_append]
  exact h.trans (List.suffix_append _ _).isInfix

theorem IsHollow.append_right (h : p.IsHollow) (q : Query) : (p ++ q).IsHollow := by
  unfold IsHollow
  rw [toList_append]
  exact h.trans (List.prefix_append _ _).isInfix

theorem IsHollow.enclosed (h : q.IsHollow) : q.enclosed.IsHollow := by
  rw [enclosed_eq]
  exact (h.append_left _).append_right _

theorem IsHollow.joined {glue : String} {qs : List Query} (h : q.IsHollow) (hq : q ∈ qs) :
    (Query.joined glue qs).IsHollow := by
  induction qs with
  | nil => cases hq
  | cons first rest ih =>
      cases rest with
      | nil =>
          rw [joined_singleton, ← List.mem_singleton.1 hq]
          exact h
      | cons next rest =>
          rw [joined_cons_cons]
          rcases List.mem_cons.1 hq with rfl | hq
          · exact (h.append_right _).append_right _
          · exact (ih hq).append_left _

/-- Nothing between parentheses. -/
theorem isHollow_enclosed_joined (glue : String) : (Query.joined glue []).enclosed.IsHollow := by
  unfold IsHollow
  rw [toList_enclosed]
  exact List.infix_refl _

end Query

namespace Condition

variable {d : Dialect} {conditions : List Condition} {q : Query}

/-- A comparison with no items at all. -/
theorem isHollow_comparison {qualifier : Option String} {key operator operand : Value}
    (hitems : operand.items? = some []) (h : comparison d qualifier true key operator operand = .ok q) :
    q.IsHollow := by
  rw [comparison_of_items? hitems] at h
  obtain ⟨left, -, h⟩ := exists_ok_of_bind h
  unfold comparedItems at h
  split at h
  · cases h
  · obtain ⟨operands, hoperands, h⟩ := exists_ok_of_bind h
    obtain ⟨word, -, h⟩ := exists_ok_of_bind h
    cases hoperands
    cases h
    exact (Query.isHollow_enclosed_joined ", ").append_left _

mutual

theorem isHollow_of_body (qualifier : Option String) : ∀ c : Condition, c.isFilled = false →
    ∀ q, c.body d qualifier true = .ok q → q.IsHollow
  | .test joint key operator operand, hfilled, q, h => by
      rw [isFilled] at hfilled
      rw [body] at h
      rcases hitems : operand.items? with _ | items
      · rw [hitems] at hfilled
        cases hfilled
      · rw [hitems, Option.all_some, Bool.not_eq_false', List.isEmpty_iff] at hfilled
        exact isHollow_comparison (hitems.trans (congrArg some hfilled)) h
  | .group joint members, hfilled, q, h => by
      rw [isFilled] at hfilled
      rw [body] at h
      obtain ⟨qs, hqs, h⟩ := exists_ok_of_bind h
      cases h
      cases members with
      | nil =>
          rw [piecesOf] at hqs
          cases hqs
          exact Query.isHollow_enclosed_joined " "
      | cons c rest =>
          obtain ⟨q, hq, hhollow⟩ := exists_isHollow_of_pieces none true (c :: rest) hfilled qs hqs
          exact (hhollow.joined hq).enclosed
  | .columns joint names, hfilled, q, h => by
      rw [isFilled, Bool.not_eq_false', List.isEmpty_iff] at hfilled
      rw [body, hfilled] at h
      cases h
      exact Query.isHollow_enclosed_joined ", "

theorem exists_isHollow_of_pieces (qualifier : Option String) (isFirst : Bool) : ∀ conditions : List Condition,
    areFilled conditions = false → ∀ qs, piecesOf d qualifier true isFirst conditions = .ok qs →
    ∃ q ∈ qs, q.IsHollow
  | [], hfilled, _, _ => nomatch hfilled
  | c :: rest, hfilled, qs, h => by
      rw [areFilled, Bool.and_eq_false_iff] at hfilled
      obtain ⟨q, back, hq, hback, rfl⟩ := piecesOf_cons_eq_ok h
      rcases hfilled with hfilled | hfilled
      · refine ⟨q, ?_, isHollow_of_body qualifier c hfilled q hq⟩
        exact List.mem_append_left _ (List.mem_append_right _ List.mem_cons_self)
      · obtain ⟨p, hp, hhollow⟩ := exists_isHollow_of_pieces qualifier false rest hfilled back hback
        exact ⟨p, List.mem_append_right _ hp, hhollow⟩

end

end Condition

/-! ### Sentences have something in between -/

/-- Neither the text nor what it makes up with others has a pair of parentheses with nothing in between. -/
structure Text.IsFull (cs : List Char) : Prop where
  nonempty : cs ≠ []
  chain : cs.IsChain fun c c' => ¬(c = '(' ∧ c' = ')')
  head : ')' ∉ cs.head?
  last : '(' ∉ cs.getLast?

namespace Text

variable {cs ds : List Char}

instance (cs : List Char) : Decidable (IsFull cs) :=
  decidable_of_iff (cs ≠ [] ∧ cs.IsChain (fun c c' => ¬(c = '(' ∧ c' = ')')) ∧ ')' ∉ cs.head? ∧ '(' ∉ cs.getLast?)
    ⟨fun h => ⟨h.1, h.2.1, h.2.2.1, h.2.2.2⟩, fun h => ⟨h.nonempty, h.chain, h.head, h.last⟩⟩

theorem IsFull.append (h : IsFull cs) (h' : IsFull ds) : IsFull (cs ++ ds) where
  nonempty := List.append_ne_nil_of_left_ne_nil h.nonempty ds
  chain := h.chain.append h'.chain fun c hc c' _ hboth => h.last (hboth.1 ▸ hc)
  head := by
    rw [List.head?_append_of_ne_nil cs h.nonempty]
    exact h.head
  last := by
    rw [List.getLast?_append_of_ne_nil cs h'.nonempty]
    exact h'.last

theorem IsFull.enclosed (h : IsFull cs) : IsFull ('(' :: (cs ++ [')'])) where
  nonempty := List.cons_ne_nil _ _
  chain := by
    have hopen : List.IsChain (fun c c' => ¬(c = '(' ∧ c' = ')')) ('(' :: cs) :=
      List.isChain_cons.2 ⟨fun c hc hboth => h.head (hboth.2 ▸ hc), h.chain⟩
    rw [← List.cons_append]
    refine hopen.append (.singleton _) fun c hc c' _ hboth => h.last ?_
    rw [List.getLast?_cons_of_ne_nil h.nonempty] at hc
    exact hboth.1 ▸ hc
  head := by
    rw [List.head?_cons, Option.mem_some]
    decide
  last := by
    rw [← List.cons_append, List.getLast?_concat, Option.mem_some]
    decide

theorem IsFull.not_infix (h : IsFull cs) : ¬['(', ')'] <:+: cs := by
  intro hempty
  have hpair := List.IsChain.infix h.chain hempty
  exact (List.isChain_cons_cons.1 hpair).1 ⟨rfl, rfl⟩

end Text

/-- The text of the fragment and what it makes up with others has something between parentheses. -/
def Query.IsFull (q : Query) : Prop := Text.IsFull q.sql.toList

namespace Query

variable {p q : Query}

instance (q : Query) : Decidable q.IsFull := inferInstanceAs (Decidable (Text.IsFull _))

theorem IsFull.append (h : p.IsFull) (h' : q.IsFull) : (p ++ q).IsFull := by
  unfold IsFull
  rw [toList_append]
  exact Text.IsFull.append h h'

theorem IsFull.enclosed (h : q.IsFull) : q.enclosed.IsFull := by
  unfold IsFull
  rw [toList_enclosed]
  exact Text.IsFull.enclosed h

theorem IsFull.joined {glue : String} {qs : List Query} (hglue : (plain glue).IsFull) (hne : qs ≠ [])
    (h : ∀ q ∈ qs, q.IsFull) : (Query.joined glue qs).IsFull := by
  induction qs with
  | nil => exact absurd rfl hne
  | cons first rest ih =>
      obtain ⟨hfirst, hrest⟩ := List.forall_mem_cons.1 h
      cases rest with
      | nil =>
          rw [joined_singleton]
          exact hfirst
      | cons next rest =>
          rw [joined_cons_cons]
          exact (hfirst.append hglue).append (ih (List.cons_ne_nil next rest) hrest)

theorem isFull_space : (plain " ").IsFull := by decide

theorem isFull_comma : (plain ", ").IsFull := by decide

/-- Words with a space behind them. -/
theorem isFull_behind {word : String} (h : (plain word).IsFull) : (plain (word ++ " ")).IsFull := by
  rw [plain_append]
  exact h.append isFull_space

/-- Words with spaces beside them. -/
theorem isFull_between {word : String} (h : (plain word).IsFull) : (plain (" " ++ word ++ " ")).IsFull := by
  rw [plain_append, plain_append]
  exact (isFull_space.append h).append isFull_space

theorem IsFull.not_isHollow (h : q.IsFull) : ¬q.IsHollow := Text.IsFull.not_infix h

end Query

namespace Terminals

/-- The text of every symbol has something between parentheses. -/
structure AreFull (T : Terminals) : Prop where
  opening : ∀ word, T.opening word → (Query.plain word).IsFull
  joiner : ∀ joiner, T.joiner joiner → (Query.plain joiner).IsFull
  operator : ∀ operator, T.operator operator → (Query.plain operator).IsFull
  term : ∀ q, T.term q → q.IsFull

variable {T : Terminals}

mutual

theorem Criterion.isFull (hT : T.AreFull) : ∀ {q : Query}, T.Criterion q → q.IsFull
  | _, .alone hq => hT.term _ hq
  | _, .compared hleft hoperator hright =>
      ((hT.term _ hleft).append (Query.isFull_between (hT.operator _ hoperator))).append (hT.term _ hright)
  | _, .between hleft hlow hhigh => by
      have hbetween : (Query.plain " BETWEEN ").IsFull := by decide
      have hand : (Query.plain " AND ").IsFull := by decide
      exact ((((hT.term _ hleft).append hbetween).append (hT.term _ hlow)).append hand).append (hT.term _ hhigh)
  | _, .listed hleft hoperator hne hoperands => by
      have hitems := Query.IsFull.joined Query.isFull_comma hne fun q hq => hT.term q (hoperands q hq)
      exact ((hT.term _ hleft).append (Query.isFull_between (hT.operator _ hoperator))).append hitems.enclosed
  | _, .columns hne hnames =>
      (Query.IsFull.joined Query.isFull_comma hne fun q hq => hT.term q (hnames q hq)).enclosed
  | _, .group hq => (Criteria.isFull hT hq).enclosed

theorem Criteria.isFull (hT : T.AreFull) : ∀ {q : Query}, T.Criteria q → q.IsFull
  | _, .first hq => Criterion.isFull hT hq
  | _, .opened hword hq => (Query.isFull_behind (hT.opening _ hword)).append (Criteria.isFull hT hq)
  | _, .more hp hjoiner hq =>
      ((Criteria.isFull hT hp).append (Query.isFull_between (hT.joiner _ hjoiner))).append (Criterion.isFull hT hq)

end

end Terminals

namespace Condition

variable {T : Terminals} {d : Dialect} {qualifier : Option String} {conditions : List Condition} {q : Query}

/-- The expression behind its keyword, if there are conditions at all. -/
theorem clause_eq_ok {keyword : String} (h : clause d qualifier keyword conditions = .ok q) :
    (conditions = [] → q = .plain "") ∧ (conditions ≠ [] → ∃ e, q = .plain (keyword ++ " ") ++ e ∧
      expression d qualifier true conditions = .ok e) := by
  unfold clause at h
  cases conditions with
  | nil => exact ⟨fun _ => (Except.ok.inj h).symm, fun hne => absurd rfl hne⟩
  | cons c rest =>
      obtain ⟨e, he, h⟩ := exists_ok_of_bind h
      exact ⟨fun hnil => absurd hnil (List.cons_ne_nil c rest), fun _ => ⟨e, (Except.ok.inj h).symm, he⟩⟩

theorem criteria_of_expression (hwithin : AllWithin T d qualifier conditions) (hne : conditions ≠ [])
    (hfilled : areFilled conditions = true) (h : expression d qualifier true conditions = .ok q) : T.Criteria q := by
  unfold expression at h
  obtain ⟨qs, hqs, h⟩ := exists_ok_of_bind h
  cases h
  exact criteria_of_pieces qualifier conditions hwithin hfilled hne qs hqs

theorem isHollow_of_expression (hempty : areFilled conditions = false)
    (h : expression d qualifier true conditions = .ok q) : q.IsHollow := by
  unfold expression at h
  obtain ⟨qs, hqs, h⟩ := exists_ok_of_bind h
  cases h
  obtain ⟨p, hp, hhollow⟩ := exists_isHollow_of_pieces qualifier true conditions hempty qs hqs
  exact hhollow.joined hp

/-- Conditions in writing are a sentence exactly if every sequence and every group among them has a member, and their
text has something between all parentheses in the same case. -/
theorem criteria_iff (hT : T.AreFull) (hwithin : AllWithin T d qualifier conditions) (hne : conditions ≠ [])
    (h : expression d qualifier true conditions = .ok q) :
    (T.Criteria q ↔ areFilled conditions = true) ∧ (q.IsFull ↔ areFilled conditions = true) := by
  cases hfilled : areFilled conditions with
  | true =>
      have hcriteria := criteria_of_expression hwithin hne hfilled h
      exact ⟨iff_of_true hcriteria rfl, iff_of_true (hcriteria.isFull hT) rfl⟩
  | false =>
      have hempty : ¬q.IsFull := fun hfull => hfull.not_isHollow (isHollow_of_expression hfilled h)
      have hno : ¬T.Criteria q := fun hcriteria => hempty (hcriteria.isFull hT)
      exact ⟨iff_of_false hno Bool.false_ne_true, iff_of_false hempty Bool.false_ne_true⟩

end Condition

end SqlBuilder
