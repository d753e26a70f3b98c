import SqlBuilder.Proofs.Identifier
import SqlBuilder.Proofs.Statement.Condition
import SqlBuilder.Proofs.Statement.Insertion

/-!
Conditions read back from their writing. The text of an expression shows where each of its parts ends: a key at its
closing mark, an operator at the question mark or the parenthesis of its operand, the items of a sequence at the
closing parenthesis, and the `AND` of a `BETWEEN` is the one that a question mark follows. So a reader finds the
conditions again, group within group, from the text and the bound values alone. Two things it cannot find, since they
are not written: whether the first condition of an expression is linked by `AND` or by `OR`, and whether the items of
a sequence are a list or a tuple. Conditions that differ in nothing else have the same normal form.
-/

namespace SqlBuilder

/-- A text of letters, digits and low lines. -/
def Text.IsWord (s : String) : Prop := s ≠ "" ∧ ∀ c ∈ s.toList, Text.isWordChar c = true

instance (s : String) : Decidable (Text.IsWord s) :=
  decidable_of_iff (s ≠ "" ∧ s.toList.all Text.isWordChar = true) (and_congr_right fun _ => List.all_eq_true)

/-- A joiner of conditions, not the beginning of a clause. -/
def Joint.IsPlain (joint : Joint) : Prop :=
  joint.joiner ∈ ["AND", "OR", "AND NOT", "OR NOT"] ∧ joint.opensOn = false

instance (joint : Joint) : Decidable joint.IsPlain := inferInstanceAs (Decidable (_ ∧ _))

/-- What an operand begins with. -/
def operandMarks : List Char := ['?', '(']

def isOperatorChar (c : Char) : Bool := c ∉ operandMarks

/-- The operator holds nothing that an operand begins with. -/
def IsOperator (operator : String) : Prop := Text.Avoids operandMarks operator

instance (operator : String) : Decidable (IsOperator operator) := inferInstanceAs (Decidable (Text.Avoids _ _))

theorem isOperator_of_mem : ∀ operator ∈ ["=", "!=", "<>", "<", "<=", ">", ">=", "<=>", "LIKE", "NOT LIKE", "IS",
    "IS NOT", "IN", "NOT IN", "BETWEEN"], IsOperator operator := by decide

/-- The operand is one value, or a sequence of at least one, of two for `BETWEEN`. No fragment of SQL is among them. -/
def IsBound (operator : String) (operand : Value) : Prop :=
  match operand.items? with
  | none => operand.isRaw = false
  | some items => items ≠ [] ∧ (operator = "BETWEEN" → items.length = 2) ∧ ∀ v ∈ items, v.isRaw = false

namespace Condition

mutual

/-- A comparison of a plainly named column with bound values, or a group of such conditions. -/
def IsPlain : Condition → Prop
  | .test joint key operator operand =>
    joint.IsPlain ∧ ∃ name op, key = .text name ∧ Text.IsWord name ∧ operator = .text op ∧ IsOperator op ∧
      IsBound op operand
  | .group joint members => joint.IsPlain ∧ members ≠ [] ∧ AllPlain members
  | .columns _ _ => False

def AllPlain : List Condition → Prop
  | [] => True
  | c :: rest => IsPlain c ∧ AllPlain rest

end

end Condition

/-! ### Normal forms -/

/-- The joiner, with `AND` for the `OR` that the first condition is written without. -/
def Joint.normal (isFirst : Bool) (joint : Joint) : Joint :=
  if isFirst && joint.joiner = "OR" then { joint with joiner := "AND" }
  else if isFirst && joint.joiner = "OR NOT" then { joint with joiner := "AND NOT" }
  else joint

def Value.normal (v : Value) : Value := (v.items?.map .list).getD v

namespace Condition

mutual

/-- The condition with its joiners and its sequences in normal form. -/
def normal (isFirst : Bool) : Condition → Condition
  | .test joint key operator operand => .test (joint.normal isFirst) key operator operand.normal
  | .group joint members => .group (joint.normal isFirst) (normalAll true members)
  | .columns joint names => .columns (joint.normal isFirst) names

def normalAll (isFirst : Bool) : List Condition → List Condition
  | [] => []
  | c :: rest => c.normal isFirst :: normalAll false rest

end

end Condition

/-! ### The reader -/

namespace Condition

/-- The joiner in normal form that the text begins with, and what is behind it. -/
def readJoint (isFirst : Bool) (cs : List Char) : Option (Joint × List Char) :=
  if isFirst then
    some (((Text.dropLead? "NOT ".toList cs).map (⟨"AND NOT", false⟩, ·)).getD (⟨"AND", false⟩, cs))
  else
    ["AND NOT", "AND", "OR NOT", "OR"].findSome? fun joiner =>
      (Text.dropLead? (joiner ++ " ").toList cs).map (⟨joiner, false⟩, ·)

/-- The operator up to the space in front of its operand, and the text from the operand on. -/
def readOperator (cs : List Char) : String × List Char :=
  (.ofList (cs.takeWhile isOperatorChar).dropLast, cs.dropWhile isOperatorChar)

/-- As many values as there are question marks up to the closing parenthesis. -/
def readItems : List Char → List Value → Option (List Value × List Char × List Value)
  | '?' :: ')' :: cs, v :: values => some ([v], cs, values)
  | '?' :: ',' :: ' ' :: cs, v :: values => do
    let (items, cs, values) ← readItems cs values
    pure (v :: items, cs, values)
  | _, _ => none

def readOperand (operator : String) (cs : List Char) (values : List Value) :
    Option (Value × List Char × List Value) :=
  match cs, values with
  | '(' :: cs, values => do
    let (items, cs, values) ← readItems cs values
    pure (.list items, cs, values)
  | '?' :: cs, v :: values =>
    match if operator = "BETWEEN" then Text.dropLead? " AND ?".toList cs else none, values with
    | some cs, w :: values => some (.list [v, w], cs, values)
    | some _, [] => none
    | none, values => some (v, cs, values)
  | _, _ => none

/-- The comparison that the text behind an opening mark begins with. -/
def readTest (d : Dialect) (joint : Joint) (cs : List Char) (values : List Value) :
    Option (Condition × List Char × List Value) := do
  let (key, cs) ← Text.readQuoted d.closeMark cs
  let (operator, cs) := readOperator cs.tail
  let (operand, cs, values) ← readOperand operator cs values
  pure (.test joint (.text (.ofList key)) (.text operator) operand, cs, values)

/-- The condition that the text behind a joiner begins with, its members read by the given reader if it is a group. -/
def readBody (d : Dialect) (readMembers : List Char → List Value → Option (List Condition × List Char × List Value))
    (joint : Joint) : List Char → List Value → Option (Condition × List Char × List Value)
  | [], _ => none
  | mark :: cs, values =>
    if mark = '(' then do
      let (members, cs, values) ← readMembers cs values
      let cs ← Text.dropLead? [')'] cs
      pure (.group joint members, cs, values)
    else if mark = d.openMark then readTest d joint cs values
    else none

def readOne (d : Dialect) (readMembers : List Char → List Value → Option (List Condition × List Char × List Value))
    (isFirst : Bool) (cs : List Char) (values : List Value) : Option (Condition × List Char × List Value) := do
  let (joint, cs) ← readJoint isFirst cs
  readBody d readMembers joint cs values

/-- The conditions that the text begins with, up to what cannot follow in their expression. The number bounds how
often the reader looks for one more. -/
def readAll (d : Dialect) : Nat → Bool → List Char → List Value → Option (List Condition × List Char × List Value)
  | 0, _, _, _ => none
  | bound + 1, isFirst, cs, values => do
    let (c, cs, values) ← readOne d (readAll d bound true) isFirst cs values
    match Text.dropLead? [' '] cs with
    | some cs => do
      let (rest, cs, values) ← readAll d bound false cs values
      pure (c :: rest, cs, values)
    | none => pure ([c], cs, values)

/-- The conditions that the whole text with its values is the expression of. -/
def read (d : Dialect) (q : Query) : Option (List Condition) :=
  if q.sql = "" then some []
  else match readAll d (q.sql.toList.length + 1) true q.sql.toList q.bindings with
    | some (conditions, [], []) => some conditions
    | _ => none

end Condition

/-! ### What is written is read back -/

/-- What a condition begins with behind its joiner, in any dialect. -/
def conditionMarks : List Char := ['`', '"', '[', '(']

theorem forall_conditionMarks {p : Char → List Char → Prop} (hgrave : ∀ cs, p '`' cs) (hquote : ∀ cs, p '"' cs)
    (hbracket : ∀ cs, p '[' cs) (hparenthesis : ∀ cs, p '(' cs) : ∀ mark ∈ conditionMarks, ∀ cs, p mark cs := by
  intro mark hmark cs
  simp only [conditionMarks, List.mem_cons, List.not_mem_nil, or_false] at hmark
  rcases hmark with rfl | rfl | rfl | rfl
  · exact hgrave cs
  · exact hquote cs
  · exact hbracket cs
  · exact hparenthesis cs

/-- What is behind an operand is not the rest of a `BETWEEN`. -/
def EndsOperand (cs : List Char) : Prop := Text.dropLead? " AND ?".toList cs = none

/-- The words in front of a condition are read back as its joiner in normal form. -/
structure Joint.Leads (joint : Joint) (isFirst : Bool) (lead : String) : Prop where
  joined : ∀ body, Query.joined " " ((joint.words isFirst).map Query.plain ++ [body]) = .plain lead ++ body
  reads : ∀ mark ∈ conditionMarks, ∀ cs,
    Condition.readJoint isFirst (lead.toList ++ mark :: cs) = some (joint.normal isFirst, mark :: cs)
  ends : isFirst = false → ∀ mark ∈ conditionMarks, ∀ cs, EndsOperand (' ' :: (lead.toList ++ mark :: cs))

theorem Joint.IsPlain.leads {joint : Joint} (h : joint.IsPlain) (isFirst : Bool) :
    ∃ lead, joint.Leads isFirst lead := by
  obtain ⟨joiner, opensOn⟩ := joint
  obtain ⟨hjoiner, rfl⟩ : joiner ∈ ["AND", "OR", "AND NOT", "OR NOT"] ∧ opensOn = false := h
  have hspaced : ∀ (word : String) (body : Query),
      Query.joined " " ([word].map Query.plain ++ [body]) = .plain (word ++ " ") ++ body := by
    intro word body
    rw [List.map_singleton, List.singleton_append, Query.joined_cons_cons, Query.joined_singleton,
      Query.plain_append]
  have hbare : ∀ body : Query, Query.joined " " ([].map Query.plain ++ [body]) = .plain "" ++ body := by
    intro body
    rw [List.map_nil, List.nil_append, Query.joined_singleton]
    exact Query.ext String.empty_append.symm rfl
  have hfirst : ∀ {P : Prop}, true = false → P := Bool.noConfusion
  simp only [List.mem_cons, List.not_mem_nil, or_false] at hjoiner
  rcases hjoiner with rfl | rfl | rfl | rfl <;> cases isFirst
  · refine ⟨"AND ", hspaced "AND", ?_, fun _ => ?_⟩ <;> apply forall_conditionMarks <;> exact fun _ => rfl
  · refine ⟨"", hbare, ?_, hfirst⟩
    apply forall_conditionMarks <;> exact fun _ => rfl
  · refine ⟨"OR ", hspaced "OR", ?_, fun _ => ?_⟩ <;> apply forall_conditionMarks <;> exact fun _ => rfl
  · refine ⟨"", hbare, ?_, hfirst⟩
    apply forall_conditionMarks <;> exact fun _ => rfl
  · refine ⟨"AND NOT ", hspaced "AND NOT", ?_, fun _ => ?_⟩ <;> apply forall_conditionMarks <;> exact fun _ => rfl
  · refine ⟨"NOT ", hspaced "NOT", ?_, hfirst⟩
    apply forall_conditionMarks <;> exact fun _ => rfl
  · refine ⟨"OR NOT ", hspaced "OR NOT", ?_, fun _ => ?_⟩ <;> apply forall_conditionMarks <;> exact fun _ => rfl
  · refine ⟨"NOT ", hspaced "NOT", ?_, hfirst⟩
    apply forall_conditionMarks <;> exact fun _ => rfl

/-! ### Comparisons -/

namespace Text

theorem splitFirstChars_of_not_mem {mark : Char} {cs : List Char} (h : mark ∉ cs) :
    splitFirstChars mark cs = (cs, none) := by
  induction cs with
  | nil => rfl
  | cons c cs ih =>
      obtain ⟨hc, hcs⟩ := List.ne_and_not_mem_of_not_mem_cons h
      rw [splitFirstChars, if_neg (Ne.symm hc), ih hcs]

theorem IsWord.not_mem {s : String} (h : IsWord s) {c : Char} (hc : isWordChar c = false) : c ∉ s.toList := by
  intro hmem
  rw [h.2 c hmem] at hc
  cases hc

end Text

theorem isWordChar_closeMark (e : Engine) : Text.isWordChar (Dialect.ofEngine e).closeMark = false := by
  cases e <;> decide

theorem closeMark_ne_space (e : Engine) : (Dialect.ofEngine e).closeMark ≠ ' ' := by cases e <;> decide

/-- A plain name stands between the marks of the dialect. -/
theorem comparedKey_word (e : Engine) {name : String} (h : Text.IsWord name) :
    comparedKey (.ofEngine e) none (.text name) =
      .ok (.plain (.ofList ((Dialect.ofEngine e).openMark :: (name.toList ++ [(Dialect.ofEngine e).closeMark])))) := by
  have hstar : Text.stripChars name.toList ≠ ['*'] := by
    intro hstar
    have hmem : '*' ∈ Text.stripChars name.toList := hstar ▸ List.mem_singleton_self _
    exact h.not_mem (by decide) (Text.mem_of_mem_stripChars hmem)
  have hquoted : (Dialect.ofEngine e).quoteName name.toList =
      (Dialect.ofEngine e).openMark :: (name.toList ++ [(Dialect.ofEngine e).closeMark]) := by
    unfold Dialect.quoteName
    rw [Text.splitFirstChars_of_not_mem (h.not_mem (by decide))]
    exact if_neg hstar
  rw [← hquoted]
  rfl

def Query.place (v : Value) : Query := ⟨"?", [v]⟩

theorem Query.toList_place (v : Value) : (place v).sql.toList = ['?'] := String.toList_ofList (l := ['?'])

theorem Query.toList_append (p q : Query) : (p ++ q).sql.toList = p.sql.toList ++ q.sql.toList :=
  String.toList_append

theorem Query.toList_enclosed (q : Query) : q.enclosed.sql.toList = '(' :: (q.sql.toList ++ [')']) := by
  rw [enclosed, String.toList_append, String.toList_append, List.append_assoc]
  rfl

theorem operandOf_bound {v : Value} (h : v.isRaw = false) : operandOf v = .ok (.place v) := by
  rw [operandOf, h]
  rfl

theorem operandsOf_bound {items : List Value} (h : ∀ v ∈ items, v.isRaw = false) :
    operandsOf items = .ok (.joined ", " (items.map .place)) := by
  have hplaces : items.mapM operandOf = .ok (items.map Query.place) := by
    induction items with
    | nil => rfl
    | cons v rest ih =>
        rw [List.mapM_cons, operandOf_bound (h v List.mem_cons_self), ih fun w hw => h w (List.mem_cons_of_mem v hw)]
        rfl
  rw [operandsOf, hplaces]
  rfl

theorem bindings_joined_place (glue : String) (items : List Value) :
    (Query.joined glue (items.map .place)).bindings = items := by
  induction items with
  | nil => rfl
  | cons v rest ih => exact congrArg (v :: ·) ih

namespace Condition

/-- An operator is read up to the space in front of an operand. -/
theorem readOperator_operator {operator : String} (h : IsOperator operator) {c : Char} (hc : c ∈ operandMarks)
    (cs : List Char) : readOperator (operator.toList ++ ' ' :: c :: cs) = (operator, c :: cs) := by
  have hfront : ∀ x ∈ operator.toList ++ [' '], isOperatorChar x = true := by
    intro x hx
    rcases List.mem_append.1 hx with hx | hx
    · exact decide_eq_true (h x hx)
    · rw [List.mem_singleton.1 hx]
      decide
  have hstop : ¬isOperatorChar c = true := fun hchar => of_decide_eq_true hchar hc
  have hsplit : operator.toList ++ ' ' :: c :: cs = operator.toList ++ [' '] ++ c :: cs := by
    rw [List.append_assoc, List.singleton_append]
  rw [readOperator, hsplit, List.takeWhile_append_of_pos hfront, List.dropWhile_append_of_pos hfront,
    List.takeWhile_cons_of_neg hstop, List.dropWhile_cons_of_neg hstop, List.append_nil, List.dropLast_concat,
    String.ofList_toList]

/-- The items of a sequence are read back up to the closing parenthesis. -/
theorem readItems_places {items : List Value} (h : items ≠ []) (rest : List Char) (more : List Value) :
    readItems ((Query.joined ", " (items.map .place)).sql.toList ++ ')' :: rest) (items ++ more) =
      some (items, rest, more) := by
  induction items with
  | nil => exact absurd rfl h
  | cons v items ih =>
      cases items with
      | nil =>
          rw [List.map_singleton, Query.joined_singleton, Query.toList_place]
          rfl
      | cons w items =>
          have hread := ih (List.cons_ne_nil w items)
          rw [List.map_cons, List.map_cons, Query.joined_cons_cons, ← List.map_cons, Query.toList_append,
            Query.toList_append, Query.toList_place, List.append_assoc]
          change readItems ('?' :: ',' :: ' ' :: (_ ++ ')' :: rest)) (v :: (w :: items ++ more)) = _
          rw [readItems, hread]
          rfl

/-- What is written behind the operator of a comparison is read back as its operand. -/
structure ReadsAs (operator : String) (operand : Value) (side : Query) : Prop where
  opens : ∃ c ∈ operandMarks, ∃ cs, side.sql.toList = c :: cs
  reads : ∀ rest more, EndsOperand rest →
    readOperand operator (side.sql.toList ++ rest) (side.bindings ++ more) = some (operand.normal, rest, more)

/-- A value is bound in one place. -/
theorem readsAs_place {operator : String} {v : Value} (hitems : v.items? = none) : ReadsAs operator v (.place v) where
  opens := ⟨'?', List.mem_cons_self, [], Query.toList_place v⟩
  reads rest more hrest := by
    have hnormal : v.normal = v := by rw [Value.normal, hitems]; rfl
    have hnone : (if operator = "BETWEEN" then Text.dropLead? " AND ?".toList rest else none) = none := by
      split
      · exact hrest
      · rfl
    rw [Query.toList_place, hnormal]
    change readOperand operator ('?' :: rest) (v :: more) = _
    simp only [readOperand, hnone]

/-- Two values are bound for `BETWEEN`. -/
theorem readsAs_between {operand low high : Value} (hitems : operand.items? = some [low, high]) :
    ReadsAs "BETWEEN" operand (.place low ++ .plain " AND " ++ .place high) := by
  have htext : (Query.place low ++ .plain " AND " ++ .place high).sql.toList = '?' :: " AND ?".toList := by
    rw [Query.toList_append, Query.toList_append, Query.toList_place, Query.toList_place]
    rfl
  refine ⟨⟨'?', List.mem_cons_self, _, htext⟩, fun rest more _ => ?_⟩
  rw [htext, Value.normal, hitems]
  rfl

/-- The items of a sequence are bound between parentheses. -/
theorem readsAs_enclosed {operator : String} {operand : Value} {items : List Value}
    (hitems : operand.items? = some items) (hne : items ≠ []) :
    ReadsAs operator operand (Query.joined ", " (items.map .place)).enclosed where
  opens := ⟨'(', List.mem_cons_of_mem _ List.mem_cons_self, _, Query.toList_enclosed _⟩
  reads rest more _ := by
    rw [Query.toList_enclosed, Query.enclosed, bindings_joined_place, List.cons_append, List.append_assoc,
      List.singleton_append, readOperand, readItems_places hne, Value.normal, hitems]
    rfl

/-- A comparison with bound values is its key, its operator and what is read back as its operand. -/
theorem comparison_bound {d : Dialect} {key : Value} (hkey : key.isRaw = false) {operator : String} {operand : Value}
    (h : IsBound operator operand) {left : Query} (hleft : comparedKey d none key = .ok left) :
    ∃ side, comparison d none true key (.text operator) operand =
      .ok (left ++ .plain (" " ++ operator ++ " ") ++ side) ∧ ReadsAs operator operand side := by
  unfold IsBound at h
  split at h
  · rename_i hitems
    refine ⟨.place operand, ?_, readsAs_place hitems⟩
    rw [comparison_of_items?_none hitems, hleft, hkey, Bool.and_false, Bool.false_and, rightSide, Bool.or_true,
      operandOf, h]
    rfl
  · rename_i items hitems
    obtain ⟨hne, hpair, hraw⟩ := h
    rw [comparison_of_items? hitems, hleft]
    change ∃ side, comparedItems left (.text operator) items = _ ∧ _
    unfold comparedItems
    by_cases hbetween : operator = "BETWEEN"
    · subst hbetween
      obtain ⟨low, high, rfl⟩ := List.length_eq_two.1 (hpair rfl)
      have hsame : Value.same (.text "BETWEEN") (.text "BETWEEN") = true := by decide
      have hlow := operandOf_bound (hraw low List.mem_cons_self)
      have hhigh := operandOf_bound (hraw high (List.mem_cons_of_mem low List.mem_cons_self))
      refine ⟨_, ?_, readsAs_between hitems⟩
      rw [if_pos hsame]
      dsimp only
      rw [hlow]
      change operandOf high >>= (fun q => pure (left ++ .plain " BETWEEN " ++ .place low ++ .plain " AND " ++ q)) = _
      rw [hhigh]
      refine congrArg Except.ok (Query.ext ?_ ?_)
      · simp only [Query.sql_append, String.append_assoc]
        rfl
      · simp only [Query.bindings_append, List.append_assoc]
        rfl
    · have hsame : Value.same (.text operator) (.text "BETWEEN") = false := beq_false_of_ne hbetween
      refine ⟨_, ?_, readsAs_enclosed hitems hne⟩
      rw [hsame, operandsOf_bound hraw]
      rfl

/-! ### Conditions -/

/-- A comparison is read back behind its opening mark. -/
theorem reads_test (e : Engine) {name operator : String} {operand : Value} (hname : Text.IsWord name)
    (hoperator : IsOperator operator) (hoperand : IsBound operator operand) :
    ∃ body cs, comparison (.ofEngine e) none true (.text name) (.text operator) operand = .ok body ∧
      body.sql.toList = (Dialect.ofEngine e).openMark :: cs ∧
      ∀ joint rest more, EndsOperand rest → readTest (.ofEngine e) joint (cs ++ rest) (body.bindings ++ more) =
        some (.test joint (.text name) (.text operator) operand.normal, rest, more) := by
  obtain ⟨side, hbody, hside⟩ := comparison_bound (d := .ofEngine e) rfl hoperand
    (comparedKey_word e hname)
  obtain ⟨c, hc, behind, hopens⟩ := hside.opens
  refine ⟨_, name.toList ++ (Dialect.ofEngine e).closeMark :: ' ' :: (operator.toList ++ ' ' :: side.sql.toList),
    hbody, ?_, fun joint rest more hrest => ?_⟩
  · simp only [Query.toList_append, Query.plain, String.toList_append, String.toList_ofList, List.append_assoc,
      List.cons_append]
    rfl
  · have hspared := Text.doubled_eq_self_iff.2 (hname.not_mem (isWordChar_closeMark e))
    have hspace : (Dialect.ofEngine e).closeMark ∉
        (' ' :: (operator.toList ++ ' ' :: (side.sql.toList ++ rest))).head? := by
      rw [List.head?_cons, Option.mem_some]
      exact (closeMark_ne_space e).symm
    have hkey := Text.readQuoted_doubled name.toList hspace
    rw [hspared] at hkey
    have hop := readOperator_operator hoperator hc (behind ++ rest)
    rw [← List.cons_append, ← hopens] at hop
    have hread := hside.reads rest more hrest
    simp only [List.append_assoc, List.cons_append]
    change readTest _ joint _ (side.bindings ++ more) = _
    simp only [readTest, hkey, Option.bind_eq_bind, Option.bind_some, List.tail_cons, hop, hread, Option.pure_def,
      String.ofList_toList]

/-- The text behind a list of conditions does not go on with a condition. -/
def EndsList (cs : List Char) : Prop := Text.dropLead? [' '] cs = none

theorem EndsList.endsOperand {cs : List Char} (h : EndsList cs) : EndsOperand cs := by
  cases cs with
  | nil => rfl
  | cons c cs =>
      have hc : ' ' ≠ c := by
        rintro rfl
        cases cs <;> cases h
      exact if_neg hc

/-- What a condition is written as begins like a condition and is read back, whatever follows that is not the rest of
a `BETWEEN`. -/
structure Reads (d : Dialect) (isFirst : Bool) (c : Condition) (q : Query) : Prop where
  ends : isFirst = false → ∀ rest, EndsOperand (' ' :: (q.sql.toList ++ rest))
  reads : ∀ bound rest more, q.sql.toList.length + rest.length ≤ bound → EndsOperand rest →
    readOne d (readAll d bound true) isFirst (q.sql.toList ++ rest) (q.bindings ++ more) =
      some (c.normal isFirst, rest, more)

/-- What conditions are written as begins like a condition and is read back, whatever follows but one more. -/
structure AllRead (d : Dialect) (isFirst : Bool) (conditions : List Condition) (q : Query) : Prop where
  ends : isFirst = false → ∀ rest, EndsOperand (' ' :: (q.sql.toList ++ rest))
  reads : ∀ bound rest more, q.sql.toList.length + rest.length < bound → EndsList rest →
    readAll d bound isFirst (q.sql.toList ++ rest) (q.bindings ++ more) =
      some (normalAll isFirst conditions, rest, more)

/-- A condition is read back behind its joiner. -/
theorem reads_of_body {d : Dialect} {isFirst : Bool} {joint : Joint} (hjoint : joint.IsPlain) {c : Condition}
    {body : Query} {mark : Char} (hmark : mark ∈ conditionMarks) {cs : List Char} (hbody : body.sql.toList = mark :: cs)
    (hreads : ∀ bound rest more, body.sql.toList.length + rest.length ≤ bound → EndsOperand rest →
      readBody d (readAll d bound true) (joint.normal isFirst) (mark :: (cs ++ rest)) (body.bindings ++ more) =
        some (c.normal isFirst, rest, more)) :
    Reads d isFirst c (Query.joined " " ((joint.words isFirst).map Query.plain ++ [body])) := by
  obtain ⟨lead, hlead⟩ := hjoint.leads isFirst
  have htext : (Query.joined " " ((joint.words isFirst).map Query.plain ++ [body])).sql.toList =
      lead.toList ++ mark :: cs := by
    rw [hlead.joined, Query.toList_append, hbody]
    rfl
  refine ⟨fun hfirst rest => ?_, fun bound rest more hbound hrest => ?_⟩
  · rw [htext, List.append_assoc]
    exact hlead.ends hfirst mark hmark (cs ++ rest)
  · have hlength : body.sql.toList.length + rest.length ≤ bound := by
      rw [htext, List.length_append, ← hbody] at hbound
      omega
    rw [htext, List.append_assoc, List.cons_append, readOne, hlead.reads mark hmark, hlead.joined]
    exact hreads bound rest more hlength hrest

/-- One condition alone is read back as a list. -/
theorem Reads.single {d : Dialect} {isFirst : Bool} {c : Condition} {q : Query} (h : Reads d isFirst c q) :
    AllRead d isFirst [c] q := by
  refine ⟨h.ends, fun bound rest more hbound hrest => ?_⟩
  obtain ⟨bound, rfl⟩ := Nat.exists_eq_succ_of_ne_zero (Nat.ne_of_gt (Nat.zero_lt_of_lt hbound))
  have hone := h.reads bound rest more (by omega) hrest.endsOperand
  have hend : Text.dropLead? [' '] rest = none := hrest
  simp only [readAll, hone, Option.bind_eq_bind, Option.bind_some, hend, Option.pure_def, normalAll]

/-- A condition in front of others is read back with them. -/
theorem Reads.cons {d : Dialect} {isFirst : Bool} {c : Condition} {rest : List Condition} {q r : Query}
    (h : Reads d isFirst c q) (hrest : AllRead d false rest r) :
    AllRead d isFirst (c :: rest) (q ++ .plain " " ++ r) := by
  have htext : (q ++ .plain " " ++ r).sql.toList = q.sql.toList ++ ' ' :: r.sql.toList := by
    rw [Query.toList_append, Query.toList_append, List.append_assoc]
    rfl
  refine ⟨fun hfirst behind => ?_, fun bound behind more hbound hbehind => ?_⟩
  · rw [htext, List.append_assoc]
    exact h.ends hfirst _
  · obtain ⟨bound, rfl⟩ := Nat.exists_eq_succ_of_ne_zero (Nat.ne_of_gt (Nat.zero_lt_of_lt hbound))
    rw [htext, List.length_append, List.length_cons] at hbound
    have hone := h.reads bound (' ' :: (r.sql.toList ++ behind)) (r.bindings ++ more)
      (by rw [List.length_cons, List.length_append]; omega) (hrest.ends rfl behind)
    have hback := hrest.reads bound behind more (by omega) hbehind
    have hvalues : (q ++ .plain " " ++ r).bindings ++ more = q.bindings ++ (r.bindings ++ more) := by
      rw [Query.bindings_append, Query.bindings_append, Query.plain, List.append_nil, List.append_assoc]
    have hspace : Text.dropLead? [' '] (' ' :: (r.sql.toList ++ behind)) = some (r.sql.toList ++ behind) :=
      Text.dropLead?_append [' '] _
    rw [htext, hvalues, List.append_assoc, List.cons_append]
    simp only [readAll, hone, Option.bind_eq_bind, Option.bind_some, hspace, hback, Option.pure_def, normalAll]

end Condition

theorem Query.joined_append (glue : String) {ps qs : List Query} (hps : ps ≠ []) (hqs : qs ≠ []) :
    joined glue (ps ++ qs) = joined glue ps ++ plain glue ++ joined glue qs := by
  induction ps with
  | nil => exact absurd rfl hps
  | cons p ps ih =>
      cases ps with
      | nil =>
          obtain ⟨q, rest, rfl⟩ := List.exists_cons_of_ne_nil hqs
          rw [List.singleton_append, joined_cons_cons, joined_singleton]
      | cons p' ps =>
          rw [List.cons_append, List.cons_append, joined_cons_cons, ← List.cons_append, ih (List.cons_ne_nil p' ps),
            joined_cons_cons]
          refine ext ?_ ?_
          · simp only [sql_append, String.append_assoc]
          · simp only [bindings_append, List.append_assoc]

namespace Condition

mutual

/-- A plain condition is written and read back. -/
theorem IsPlain.reads (e : Engine) (isFirst : Bool) : ∀ c : Condition, c.IsPlain →
    ∃ ps, c.pieces (.ofEngine e) none true isFirst = .ok ps ∧ ps ≠ [] ∧
      Reads (.ofEngine e) isFirst c (Query.joined " " ps)
  | .test joint key operator operand, ⟨hjoint, name, op, hkey, hname, hoperator, hop, hoperand⟩ => by
      subst hkey hoperator
      obtain ⟨body, cs, hbody, htext, hread⟩ := reads_test e hname hop hoperand
      refine ⟨(joint.words isFirst).map Query.plain ++ [body], ?_, by simp, ?_⟩
      · rw [pieces, hbody]
        rfl
      · refine reads_of_body hjoint (by cases e <;> decide) htext fun bound rest more _ hrest => ?_
        rw [readBody, if_neg (by cases e <;> decide), if_pos rfl, hread _ rest more hrest, normal]
  | .group joint members, ⟨hjoint, hne, hmembers⟩ => by
      obtain ⟨ps, hps, _, hread⟩ := AllPlain.reads e true members hne hmembers
      refine ⟨(joint.words isFirst).map Query.plain ++ [(Query.joined " " ps).enclosed], ?_, by simp, ?_⟩
      · rw [pieces, hps]
        rfl
      · refine reads_of_body hjoint (by decide) (Query.toList_enclosed _) fun bound rest more hbound _ => ?_
        rw [Query.toList_enclosed, List.length_cons, List.length_append, List.length_singleton] at hbound
        have hinner := hread.reads bound (')' :: rest) more (by rw [List.length_cons]; omega) rfl
        have hclose : Text.dropLead? [')'] (')' :: rest) = some rest := Text.dropLead?_append [')'] rest
        rw [readBody, if_pos rfl, List.append_assoc, List.singleton_append, Query.enclosed]
        simp only [hinner, Option.bind_eq_bind, Option.bind_some, hclose, Option.pure_def, normal]

/-- Plain conditions are written and read back. -/
theorem AllPlain.reads (e : Engine) (isFirst : Bool) : ∀ conditions : List Condition, conditions ≠ [] →
    AllPlain conditions → ∃ ps, piecesOf (.ofEngine e) none true isFirst conditions = .ok ps ∧ ps ≠ [] ∧
      AllRead (.ofEngine e) isFirst conditions (Query.joined " " ps)
  | [], hne, _ => absurd rfl hne
  | [c], _, ⟨hc, _⟩ => by
      obtain ⟨ps, hps, hpsne, hread⟩ := IsPlain.reads e isFirst c hc
      refine ⟨ps, ?_, hpsne, hread.single⟩
      rw [piecesOf, hps, piecesOf]
      exact congrArg Except.ok (List.append_nil ps)
  | c :: d :: rest, _, ⟨hc, hrest⟩ => by
      obtain ⟨ps, hps, hpsne, hread⟩ := IsPlain.reads e isFirst c hc
      obtain ⟨qs, hqs, hqsne, hreads⟩ := AllPlain.reads e false (d :: rest) (List.cons_ne_nil d rest) hrest
      refine ⟨ps ++ qs, ?_, by simp [hpsne], ?_⟩
      · rw [piecesOf, hps, hqs]
        rfl
      · rw [Query.joined_append " " hpsne hqsne]
        exact hread.cons hreads

end

/-- Plain conditions make up an expression, which the reader finds their normal forms in. -/
theorem AllPlain.read_expression (e : Engine) {conditions : List Condition} (h : AllPlain conditions) :
    ∃ q, expression (.ofEngine e) none true conditions = .ok q ∧
      read (.ofEngine e) q = some (normalAll true conditions) := by
  by_cases hne : conditions = []
  · subst hne
    exact ⟨⟨"", []⟩, rfl, rfl⟩
  · obtain ⟨ps, hps, -, hread⟩ := AllPlain.reads e true conditions hne h
    refine ⟨Query.joined " " ps, by rw [expression, hps]; rfl, ?_⟩
    have hall := hread.reads ((Query.joined " " ps).sql.toList.length + 1) [] []
      (by rw [List.length_nil]; omega) rfl
    rw [List.append_nil, List.append_nil] at hall
    have htext : (Query.joined " " ps).sql ≠ "" := by
      intro hempty
      rw [hempty] at hall
      cases hall
    rw [read, if_neg htext, hall]

end Condition

/-! ### The writing of normal forms -/

theorem Joint.words_normal (joint : Joint) (isFirst : Bool) :
    (joint.normal isFirst).words isFirst = joint.words isFirst := by
  obtain ⟨joiner, opensOn⟩ := joint
  cases isFirst with
  | false => rfl
  | true =>
      unfold normal
      split
      · rename_i hor
        obtain rfl : joiner = "OR" := of_decide_eq_true hor
        cases opensOn <;> rfl
      · split
        · rename_i hor
          obtain rfl : joiner = "OR NOT" := of_decide_eq_true hor
          cases opensOn <;> rfl
        · rfl

theorem Value.items?_normal (v : Value) : v.normal.items? = v.items? := by
  cases v <;> rfl

theorem comparison_normal (d : Dialect) (qualifier : Option String) (isBound : Bool) (key operator operand : Value) :
    comparison d qualifier isBound key operator operand.normal =
      comparison d qualifier isBound key operator operand := by
  cases hitems : operand.items? with
  | none => rw [Value.normal, hitems]; rfl
  | some items =>
      rw [comparison_of_items? hitems, comparison_of_items? ((Value.items?_normal operand).trans hitems)]

namespace Condition

mutual

/-- A condition and its normal form are written alike. -/
theorem pieces_normal (d : Dialect) (qualifier : Option String) (isBound isFirst : Bool) :
    ∀ c : Condition, (c.normal isFirst).pieces d qualifier isBound isFirst = c.pieces d qualifier isBound isFirst
  | .test joint key operator operand => by
      rw [normal, pieces, pieces, comparison_normal, Joint.words_normal]
  | .group joint members => by
      rw [normal, pieces, pieces, piecesOf_normalAll d none true true members, Joint.words_normal]
  | .columns joint names => by
      rw [normal, pieces, pieces, Joint.words_normal]

theorem piecesOf_normalAll (d : Dialect) (qualifier : Option String) (isBound isFirst : Bool) :
    ∀ conditions : List Condition, piecesOf d qualifier isBound isFirst (normalAll isFirst conditions) =
      piecesOf d qualifier isBound isFirst conditions
  | [] => rfl
  | c :: rest => by
      rw [normalAll, piecesOf, piecesOf, pieces_normal d qualifier isBound isFirst c,
        piecesOf_normalAll d qualifier isBound false rest]

end

/-- Conditions on plain names with bound values make up an expression in every dialect, from whose text and values
alone a reader finds their normal forms. So two lists of them make up the same text with the same values exactly if
they have the same normal form: they are the same condition by condition and group by group, but for an `AND` and an
`OR` in front of the first one of an expression, and for the kinds of the sequences. -/
theorem expression_unambiguous (e : Engine) {conditions others : List Condition} (h : AllPlain conditions)
    (h' : AllPlain others) :
    ∃ q r, expression (.ofEngine e) none true conditions = .ok q ∧
      expression (.ofEngine e) none true others = .ok r ∧ read (.ofEngine e) q = some (normalAll true conditions) ∧
      (q.sql = r.sql ∧ q.bindings = r.bindings ↔ normalAll true conditions = normalAll true others) := by
  obtain ⟨q, hq, hreadq⟩ := h.read_expression e
  obtain ⟨r, hr, hreadr⟩ := h'.read_expression e
  refine ⟨q, r, hq, hr, hreadq, fun ⟨hsql, hbindings⟩ => ?_, fun hnormal => ?_⟩
  · obtain rfl : q = r := Query.ext hsql hbindings
    exact Option.some.inj (hreadq.symm.trans hreadr)
  · have hwriting : ∀ cs, expression (.ofEngine e) none true (normalAll true cs) =
        expression (.ofEngine e) none true cs := by
      intro cs
      rw [expression, expression, piecesOf_normalAll]
    have hsame : (Except.ok q : Except Fault Query) = .ok r := by
      rw [← hq, ← hr, ← hwriting conditions, ← hwriting others, hnormal]
    injection hsame with hqr
    exact ⟨congrArg Query.sql hqr, congrArg Query.bindings hqr⟩

/-- A comparison, and a group of two alternatives, a list of values and a range. -/
def sampleConditions (joiner : String) (sequence : List Value → Value) : List Condition := [
  .test ⟨joiner, false⟩ (.text "age") (.text ">=") (.int 18),
  .group ⟨"AND NOT", false⟩ [
    .test ⟨joiner, false⟩ (.text "name") (.text "NOT IN") (sequence [.text "Ann", .null]),
    .test ⟨"OR NOT", false⟩ (.text "size") (.text "BETWEEN") (sequence [.int 1, .int 2])]]

theorem allPlain_sampleConditions (joiner : String) (sequence : List Value → Value)
    (hjoiner : joiner ∈ ["AND", "OR", "AND NOT", "OR NOT"])
    (hsequence : ∀ items, (sequence items).items? = some items) : AllPlain (sampleConditions joiner sequence) := by
  have hjoint : (⟨joiner, false⟩ : Joint).IsPlain := ⟨hjoiner, rfl⟩
  have hbound : ∀ operator, ∀ low high : Value, low.isRaw = false → high.isRaw = false →
      IsBound operator (sequence [low, high]) := by
    intro operator low high hlow hhigh
    unfold IsBound
    rw [hsequence]
    exact ⟨List.cons_ne_nil _ _, fun _ => rfl, List.forall_mem_cons.2 ⟨hlow, List.forall_mem_singleton.2 hhigh⟩⟩
  have hage : IsPlain (.test ⟨joiner, false⟩ (.text "age") (.text ">=") (.int 18)) :=
    ⟨hjoint, _, _, rfl, by decide, rfl, isOperator_of_mem _ (by decide), rfl⟩
  have hname : IsPlain (.test ⟨joiner, false⟩ (.text "name") (.text "NOT IN") (sequence [.text "Ann", .null])) :=
    ⟨hjoint, _, _, rfl, by decide, rfl, isOperator_of_mem _ (by decide), hbound _ _ _ rfl rfl⟩
  have hsize : IsPlain (.test ⟨"OR NOT", false⟩ (.text "size") (.text "BETWEEN") (sequence [.int 1, .int 2])) :=
    ⟨by decide, _, _, rfl, by decide, rfl, isOperator_of_mem _ (by decide), hbound _ _ _ rfl rfl⟩
  exact ⟨hage, ⟨by decide, List.cons_ne_nil _ _, hname, hsize, trivial⟩, trivial⟩

/-- Two lists with the same writing. -/
theorem expression_unambiguous_group :
    ∃ q, expression (.ofEngine .sqlserver) none true (sampleConditions "OR" .tuple) = .ok q ∧
      expression (.ofEngine .sqlserver) none true (sampleConditions "AND" .list) = .ok q ∧
      read (.ofEngine .sqlserver) q = some (sampleConditions "AND" .list) := by
  obtain ⟨q, r, hq, hr, hread, hsame⟩ := expression_unambiguous .sqlserver
    (allPlain_sampleConditions "OR" .tuple (by decide) fun _ => rfl)
    (allPlain_sampleConditions "AND" .list (by decide) fun _ => rfl)
  obtain ⟨hsql, hbindings⟩ := hsame.2 rfl
  obtain rfl : q = r := Query.ext hsql hbindings
  exact ⟨q, hq, hr, hread⟩

end Condition

end SqlBuilder
