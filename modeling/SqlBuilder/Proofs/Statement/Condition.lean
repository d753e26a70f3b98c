import SqlBuilder.Proofs.Statement.Respects

/-!
Names, operands and conditions in writing, beside the same ones with their values exchanged. Every fault depends
on what an exchange leaves in place, so both are written or both fail in the same way.
-/

namespace SqlBuilder

/-- The text that the value is written as holds no special character. -/
theorem Vocabulary.Word.written {V : Vocabulary} {v : Value} (h : V.Word v) :
    Agree (fun s t => s = t ∧ Text.Avoids V.special s) v.written v.written := by
  unfold Value.written
  cases hw : v.written? with
  | none => exact rfl
  | some s => exact ⟨rfl, h s hw⟩

/-- Taking away a leading `AND` or `OR` brings in no character. -/
theorem Joint.avoids_opening {joint : Joint} {chars : List Char} (h : Text.Avoids chars joint.joiner) :
    Text.Avoids chars joint.opening := by
  have hdrop : ∀ word cs rest, dropWord? word cs = some rest → ∀ c ∈ rest, c ∈ cs := by
    intro word cs rest hrest c hc
    unfold dropWord? at hrest
    simp only [Option.ite_none_right_eq_some, Option.some.injEq] at hrest
    rw [← hrest.2] at hc
    exact List.mem_of_mem_drop hc
  unfold opening
  refine (h.of_subset fun c hc => ?_).strip
  cases hand : dropWord? ['A', 'N', 'D'] (Text.stripLeftChars joint.joiner.toList) with
  | some rest =>
      rw [hand, Option.some_or, Option.getD_some] at hc
      exact Text.mem_of_mem_stripLeftChars (hdrop _ _ rest hand c hc)
  | none =>
      cases hor : dropWord? ['O', 'R'] (Text.stripLeftChars joint.joiner.toList) with
      | some rest =>
          rw [hand, hor, Option.none_or, Option.getD_some] at hc
          exact Text.mem_of_mem_stripLeftChars (hdrop _ _ rest hor c hc)
      | none =>
          rw [hand, hor, Option.none_or, Option.getD_none] at hc
          exact hc

namespace Dialect

/-- No mark is a dot. -/
theorem contains_dot_quotePart (e : Engine) (part : List Char) :
    ((ofEngine e).quotePart part).contains '.' = part.contains '.' := by
  unfold quotePart
  split
  · rfl
  · cases e <;> simp [ofEngine, mysql, postgresql, sqlite, sqlserver]

theorem contains_dot_quoteName (e e' : Engine) (name : List Char) :
    ((ofEngine e).quoteName name).contains '.' = ((ofEngine e').quoteName name).contains '.' := by
  unfold quoteName
  rcases Text.splitFirstChars '.' name with ⟨whole, _ | rest⟩
  · rw [contains_dot_quotePart, contains_dot_quotePart]
  · simp

end Dialect

section Unfolding

variable {d : Dialect} {qualifier : Option String} {isBound : Bool} {key operator operand : Value}

theorem comparison_of_items? {items : List Value} (h : operand.items? = some items) :
    comparison d qualifier isBound key operator operand =
      (do comparedItems (← comparedKey d qualifier key) operator items) := by
  unfold comparison
  rw [h]

/-- The right side of a comparison, where the operand is no sequence. -/
def rightSide (d : Dialect) (isBound : Bool) (operand : Value) : Except Fault Query :=
  if operand.isRaw || isBound then operandOf operand
  else if operand.isNull then pure (.plain "NULL")
  else do pure (.plain (← d.identifier operand))

/-- Both sides of a comparison with its operator in between. -/
def withOperator (left : Query) (operator : Value) (right : Query) : Except Fault Query := do
  pure (left ++ .plain (" " ++ (← operator.written) ++ " ") ++ right)

theorem comparison_of_items?_none (h : operand.items? = none) :
    comparison d qualifier isBound key operator operand = (do
      let left ← comparedKey d qualifier key
      if isBound && !operand.isRaw && key.isRaw && operator.isNull then pure left
      else rightSide d isBound operand >>= withOperator left operator) := by
  unfold comparison rightSide operandOf
  rw [h]
  cases operand.isRaw <;> cases isBound <;> cases operand.isNull <;>
    first
    | rfl
    | simp [withOperator]

end Unfolding

namespace Vocabulary.Respects

variable {V : Vocabulary} {f : Refit} {spare : Bool} {rel : List Value → Query → Query → Prop}
  {e e' : Engine} (law : V.Respects f spare e e' rel) {v : Value}

include law

/-! ### Names -/

theorem quotePart {part : List Char} (h : ∀ c ∈ part, c ∉ V.special) :
    rel [] (.plain (.ofList ((Dialect.ofEngine e).quotePart part)))
      (.plain (.ofList ((Dialect.ofEngine e').quotePart part))) := by
  unfold Dialect.quotePart
  split
  · refine law.text _ fun c hc => h c ?_
    rwa [String.toList_ofList] at hc
  · exact law.quoted part h

theorem quoteName {name : List Char} (h : ∀ c ∈ name, c ∉ V.special) :
    rel [] (.plain (.ofList ((Dialect.ofEngine e).quoteName name)))
      (.plain (.ofList ((Dialect.ofEngine e').quoteName name))) := by
  have hsplit := Text.mem_of_splitFirstChars '.' name
  unfold Dialect.quoteName
  generalize Text.splitFirstChars '.' name = parts at hsplit
  rcases parts with ⟨qualifier, _ | rest⟩
  · exact law.quotePart fun c hc => h c (hsplit.1 c hc)
  · have hq := law.quotePart fun c hc => h c (hsplit.1 c hc)
    have hr := law.quotePart fun c hc => h c (hsplit.2 rest rfl c hc)
    rw [Query.plain_dotted, Query.plain_dotted]
    exact law.append hq (law.before (V.avoids (by decide)) hr)

/-- The identifier of a value that is no fragment of SQL. -/
theorem identifier_of_word (h : V.Word v) (hraw : v.isRaw = false) :
    Agree (fun s t => rel [] (.plain s) (.plain t) ∧ s.toList.contains '.' = t.toList.contains '.')
      ((Dialect.ofEngine e).identifier v) ((Dialect.ofEngine e').identifier v) := by
  unfold Dialect.identifier
  rw [hraw]
  cases v.isCallable with
  | true => exact rfl
  | false =>
      refine h.written.bind ?_
      rintro s _ ⟨rfl, hs⟩
      refine Agree.pure ⟨law.quoteName hs, ?_⟩
      rw [String.toList_ofList, String.toList_ofList]
      exact Dialect.contains_dot_quoteName e e' _

omit law in
/-- A name as an identifier: it is a fragment of SQL with a text, or stays as it is, or has no text at all. -/
theorem identifier_cases {R : String → String → Prop}
    (hfragment : ∀ s bindings, v = .raw (.text s) bindings →
      Agree R ((Dialect.ofEngine e).identifier v) ((Dialect.ofEngine e').identifier (f.name v)))
    (hword : v.isRaw = false → Agree R ((Dialect.ofEngine e).identifier v) ((Dialect.ofEngine e').identifier v)) :
    Agree R ((Dialect.ofEngine e).identifier v) ((Dialect.ofEngine e').identifier (f.name v)) := by
  rcases v.raw_cases with ⟨s, bindings, hv⟩ | ⟨content, bindings, rfl, hcontent⟩ | hraw
  · exact hfragment s bindings hv
  · rw [f.name_of_not_text hcontent]
    have hw : ∀ engine, (Dialect.ofEngine engine).identifier (.raw content bindings) = .error .typeMismatch :=
      fun _ => Value.written_raw_of_not_text hcontent bindings
    rw [hw, hw]
    exact rfl
  · rw [f.name_of_not_raw hraw]
    exact hword hraw

/-- A name as an identifier, with the values of a fragment of SQL. -/
theorem identifier (h : V.Name v) :
    Agree (fun s t => rel v.fragmentBindings ⟨s, v.fragmentBindings⟩ ⟨t, (f.name v).fragmentBindings⟩)
      ((Dialect.ofEngine e).identifier v) ((Dialect.ofEngine e').identifier (f.name v)) := by
  apply identifier_cases
  · rintro s bindings rfl
    exact law.fragment s bindings h
  · intro hraw
    refine (law.identifier_of_word (Name.word h hraw) hraw).mono fun s t hs => ?_
    rw [f.name_of_not_raw hraw, Value.fragmentBindings_of_not_raw hraw]
    exact hs.1

/-- The text of a name as an identifier. The values of a fragment of SQL are spare. -/
theorem bareIdentifier (h : V.BareName v) :
    Agree (fun s t => rel (v.spareBindings spare) (.plain s) (.plain t)) ((Dialect.ofEngine e).identifier v)
      ((Dialect.ofEngine e').identifier (f.name v)) := by
  apply identifier_cases
  · rintro s bindings rfl
    exact law.bare s bindings h
  · intro hraw
    refine (law.identifier_of_word (BareName.word h hraw) hraw).mono fun s t hs => ?_
    rw [Value.spareBindings_of_not_raw spare hraw]
    exact hs.1

/-- An alias, whose values stay as they are. -/
theorem shortName (h : V.Word v) :
    Agree (fun s t => rel [] (.plain s) (.plain t)) ((Dialect.ofEngine e).identifier v)
      ((Dialect.ofEngine e').identifier v) := by
  cases hraw : v.isRaw with
  | false => exact (law.identifier_of_word h hraw).mono fun _ _ hs => hs.1
  | true =>
      unfold Dialect.identifier
      rw [hraw]
      refine h.written.mono ?_
      rintro s _ ⟨rfl, hs⟩
      exact law.text s hs

/-- Names with commas in between. -/
theorem nameList {names : List Value} (h : ∀ v ∈ names, V.BareName v) :
    Agree (fun s t => rel (names.flatMap (Value.spareBindings spare)) (.plain s) (.plain t))
      (nameList (Dialect.ofEngine e) names) (nameList (Dialect.ofEngine e') (names.map f.name)) := by
  have hparts : Agree
      (fun ss ts => Parts rel (names.flatMap (Value.spareBindings spare)) (ss.map .plain) (ts.map .plain))
      (names.mapM (Dialect.ofEngine e).identifier) ((names.map f.name).mapM (Dialect.ofEngine e').identifier) := by
    induction names with
    | nil => exact Parts.nil
    | cons v rest ih =>
        rw [List.map_cons, List.mapM_cons, List.mapM_cons]
        refine (law.bareIdentifier (h v List.mem_cons_self)).bind fun s t hs => ?_
        refine (ih fun w hw => h w (List.mem_cons_of_mem v hw)).bind fun ss ts hss => ?_
        exact Parts.cons hs hss
  unfold SqlBuilder.nameList
  refine hparts.bind fun ss ts hss => ?_
  refine Agree.pure ?_
  rw [Query.plain_joined, Query.plain_joined]
  exact law.joined (V.avoids (by decide)) hss

/-! ### Operands -/

/-- A fragment of SQL with its values. -/
theorem fragmentOf (hraw : v.isRaw = true) (h : V.Name v) :
    Agree (rel v.fragmentBindings) (fragmentOf v) (fragmentOf (f.name v)) := by
  rcases v.raw_cases with ⟨s, bindings, rfl⟩ | ⟨content, bindings, rfl, hcontent⟩ | hno
  · exact law.fragment s bindings h
  · rw [f.name_of_not_text hcontent]
    unfold SqlBuilder.fragmentOf
    rw [Value.written_raw_of_not_text hcontent]
    exact rfl
  · rw [hno] at hraw
    exact absurd hraw (by decide)

/-- A value where a statement takes one. -/
theorem operandOf (h : V.Item v) : Agree (rel v.placed) (operandOf v) (operandOf (f.item v)) := by
  unfold Refit.item Value.placed
  cases hraw : v.isRaw with
  | true =>
      rw [if_pos rfl, if_pos rfl, SqlBuilder.operandOf, SqlBuilder.operandOf, f.name_isRaw, hraw]
      exact law.fragmentOf hraw (Item.name h hraw)
  | false =>
      rw [SqlBuilder.operandOf, hraw]
      exact law.bound v hraw

theorem operandsOf {values : List Value} (h : ∀ v ∈ values, V.Item v) :
    Agree (rel (values.flatMap Value.placed)) (operandsOf values) (operandsOf (values.map f.item)) := by
  unfold SqlBuilder.operandsOf
  refine (Agree.parts fun v hv => law.operandOf (h v hv)).bind fun qs qs' hqs => ?_
  exact Agree.pure (law.joined (V.avoids (by decide)) hqs)

/-! ### Comparisons -/

/-- The left side of a comparison. -/
theorem comparedKey {qualifier : Option String} (hq : ∀ q ∈ qualifier, Text.Avoids V.special q)
    (h : V.Name v) :
    Agree (rel v.fragmentBindings) (comparedKey (Dialect.ofEngine e) qualifier v)
      (comparedKey (Dialect.ofEngine e') qualifier (f.name v)) := by
  unfold SqlBuilder.comparedKey
  rw [f.name_isRaw]
  cases hraw : v.isRaw with
  | true => exact law.fragmentOf hraw h
  | false =>
      rw [f.name_of_not_raw hraw, Value.fragmentBindings_of_not_raw hraw]
      refine (law.identifier_of_word (Name.word h hraw) hraw).bind ?_
      rintro s t ⟨hs, hdot⟩
      cases qualifier with
      | none => exact hs
      | some q =>
          refine Agree.pure ?_
          rw [hdot]
          split
          · exact hs
          · exact law.before ((hq q rfl).append (V.avoids (by decide))) hs

/-- A comparison with the items of a sequence. -/
theorem comparedItems {vs : List Value} {left left' : Query} {operator : Value} {items : List Value}
    (hleft : rel vs left left') (hoperator : V.Word operator) (hitems : ∀ v ∈ items, V.Item v) :
    Agree (rel (vs ++ if operator.same (.text "BETWEEN") then (items.take 2).flatMap Value.placed
        else items.flatMap Value.placed))
      (comparedItems left operator items) (comparedItems left' operator (items.map f.item)) := by
  unfold SqlBuilder.comparedItems
  cases operator.same (.text "BETWEEN") with
  | true =>
      match items with
      | [] => exact rfl
      | [low] =>
          refine (law.operandOf (hitems low List.mem_cons_self)).bind fun q q' hq => ?_
          exact rfl
      | low :: high :: rest =>
          refine (law.operandOf (hitems low List.mem_cons_self)).bind fun q q' hq => ?_
          refine (law.operandOf (hitems high (List.mem_cons_of_mem low List.mem_cons_self))).bind
            fun r r' hr => ?_
          refine Agree.pure (law.append_of_eq (law.behind (V.avoids (by decide))
            (law.append (law.behind (V.avoids (by decide)) hleft) hq)) hr ?_)
          simp
  | false =>
      refine (law.operandsOf hitems).bind fun q q' hq => ?_
      refine hoperator.written.bind ?_
      rintro s _ ⟨rfl, hs⟩
      refine Agree.pure (law.append (law.behind ?_ hleft) (law.enclosed hq))
      exact ((V.avoids (by decide)).append hs).append (V.avoids (by decide))

theorem withOperator {vs ws : List Value} {left left' right right' : Query} {operator : Value}
    (hleft : rel vs left left') (hoperator : V.Word operator) (hright : rel ws right right') :
    Agree (rel (vs ++ ws)) (withOperator left operator right) (withOperator left' operator right') := by
  unfold SqlBuilder.withOperator
  refine hoperator.written.bind ?_
  rintro s _ ⟨rfl, hs⟩
  refine Agree.pure (law.append (law.behind ?_ hleft) hright)
  exact ((V.avoids (by decide)).append hs).append (V.avoids (by decide))

/-- A comparison with a fragment of SQL. -/
theorem comparison_of_raw {qualifier : Option String} (hq : ∀ q ∈ qualifier, Text.Avoids V.special q)
    {isBound : Bool} {key operator operand : Value} (hkey : V.Name key) (hoperator : V.Word operator)
    (hoperand : V.Name operand) (hitems : operand.items? = none) (hraw : operand.isRaw = true) :
    Agree (rel (key.fragmentBindings ++ operand.fragmentBindings))
      (comparison (Dialect.ofEngine e) qualifier isBound key operator operand)
      (comparison (Dialect.ofEngine e') qualifier isBound (f.name key) operator (f.name operand)) := by
  have hitems' : (f.name operand).items? = none := by rw [f.name_items?, hitems]
  have hright : Agree (rel operand.fragmentBindings) (SqlBuilder.operandOf operand)
      (SqlBuilder.operandOf (f.name operand)) := by
    rw [SqlBuilder.operandOf, SqlBuilder.operandOf, f.name_isRaw, hraw]
    exact law.fragmentOf hraw hoperand
  simp only [comparison_of_items?_none hitems, comparison_of_items?_none hitems', rightSide, f.name_isRaw, hraw,
    Bool.true_or, if_true, Bool.not_true, Bool.and_false, Bool.false_and, Bool.false_eq_true, if_false]
  exact (law.comparedKey hq hkey).bind fun left left' hl => hright.bind fun q q' hr =>
    law.withOperator hl hoperator hr

/-- A comparison with the name of a column. -/
theorem comparison_of_name {qualifier : Option String} (hq : ∀ q ∈ qualifier, Text.Avoids V.special q)
    {key operator operand : Value} (hkey : V.Name key) (hoperator : V.Word operator) (hoperand : V.Name operand)
    (hitems : operand.items? = none) (hraw : operand.isRaw = false) :
    Agree (rel key.fragmentBindings) (comparison (Dialect.ofEngine e) qualifier false key operator operand)
      (comparison (Dialect.ofEngine e') qualifier false (f.name key) operator operand) := by
  have hname : Agree (rel []) (do pure (.plain (← (Dialect.ofEngine e).identifier operand)))
      (do pure (.plain (← (Dialect.ofEngine e').identifier operand))) := by
    exact (law.identifier_of_word (Name.word hoperand hraw) hraw).bind fun s t hs => hs.1
  have hright : Agree (rel []) (rightSide (Dialect.ofEngine e) false operand)
      (rightSide (Dialect.ofEngine e') false operand) := by
    simp only [rightSide, hraw, Bool.or_false, Bool.false_eq_true, if_false]
    split
    · exact Agree.pure (law.word (by decide))
    · exact hname
  simp only [comparison_of_items?_none hitems, Bool.false_and, Bool.false_eq_true, if_false]
  refine (law.comparedKey hq hkey).bind fun left left' hl => hright.bind fun q q' hr => ?_
  have hboth := law.withOperator hl hoperator hr
  rwa [List.append_nil] at hboth

/-- A comparison with a value that is bound. -/
theorem comparison_of_bound {qualifier : Option String} (hq : ∀ q ∈ qualifier, Text.Avoids V.special q)
    {key operator operand : Value} (hkey : V.Name key) (hoperator : V.Word operator)
    (hitems : operand.items? = none) (hraw : operand.isRaw = false) (hidle : (key.isRaw && operator.isNull) = false) :
    Agree (rel (key.fragmentBindings ++ [operand]))
      (comparison (Dialect.ofEngine e) qualifier true key operator operand)
      (comparison (Dialect.ofEngine e') qualifier true (f.name key) operator (f.bound operand)) := by
  have hidle' : (!(f.bound operand).isRaw && (f.name key).isRaw && operator.isNull) = false := by
    rw [f.name_isRaw, Bool.and_assoc, hidle, Bool.and_false]
  have hright : Agree (rel [operand]) (SqlBuilder.operandOf operand) (SqlBuilder.operandOf (f.bound operand)) := by
    rw [SqlBuilder.operandOf, hraw]
    exact law.bound operand hraw
  simp only [comparison_of_items?_none hitems, comparison_of_items?_none (law.bound_items operand hitems), rightSide,
    hraw, hidle, hidle', Bool.not_false, Bool.true_and, Bool.false_eq_true, if_false, Bool.or_true, if_true]
  exact (law.comparedKey hq hkey).bind fun left left' hl => hright.bind fun q q' hr =>
    law.withOperator hl hoperator hr

/-- A fragment of SQL without an operator stands alone, whatever it is compared with. -/
theorem comparison_of_idle {qualifier : Option String} (hq : ∀ q ∈ qualifier, Text.Avoids V.special q)
    {key operator operand : Value} (hkey : V.Name key) (hitems : operand.items? = none)
    (hraw : operand.isRaw = false) (hidle : (key.isRaw && operator.isNull) = true) :
    Agree (rel key.fragmentBindings) (comparison (Dialect.ofEngine e) qualifier true key operator operand)
      (comparison (Dialect.ofEngine e') qualifier true (f.name key) operator (f.idle operand)) := by
  simp only [comparison_of_items?_none hitems, comparison_of_items?_none (law.idle_items operand hitems), hraw,
    law.idle_isRaw operand hraw, f.name_isRaw, hidle, Bool.not_false, Bool.true_and, if_true]
  exact (law.comparedKey hq hkey).bind fun left left' hl => Agree.pure hl

theorem comparison {qualifier : Option String} (hq : ∀ q ∈ qualifier, Text.Avoids V.special q)
    {isBound : Bool} {key operator operand : Value} (hkey : V.Name key) (hoperator : V.Word operator)
    (hoperand : V.Operand isBound operand) :
    Agree (rel (key.fragmentBindings ++ operandValues isBound key operator operand))
      (comparison (Dialect.ofEngine e) qualifier isBound key operator operand)
      (comparison (Dialect.ofEngine e') qualifier isBound (f.name key) operator
        (f.operand isBound key operator operand)) := by
  cases hitems : operand.items? with
  | some items =>
      rw [comparison_of_items? hitems, comparison_of_items? (f.operand_of_items? hitems)]
      unfold operandValues
      rw [hitems]
      exact (law.comparedKey hq hkey).bind fun left left' hl =>
        law.comparedItems hl hoperator (hoperand.items hitems)
  | none =>
      have hvalues : operandValues isBound key operator operand =
          if operand.isRaw then operand.fragmentBindings
          else if isBound && !(key.isRaw && operator.isNull) then [operand] else [] := by
        unfold operandValues
        rw [hitems]
      rw [hvalues, f.operand_of_items?_none hitems]
      cases hraw : operand.isRaw with
      | true => exact law.comparison_of_raw hq hkey hoperator (hoperand.name hitems (.inl hraw)) hitems hraw
      | false =>
          cases isBound with
          | false =>
              have hname := hoperand.name hitems (.inr rfl)
              have hplain := law.comparison_of_name hq hkey hoperator hname hitems hraw
              simpa [f.name_of_not_raw hraw] using hplain
          | true =>
              cases hidle : key.isRaw && operator.isNull with
              | true => simpa [hidle] using law.comparison_of_idle hq hkey hitems hraw hidle
              | false => simpa [hidle] using law.comparison_of_bound hq hkey hoperator hitems hraw hidle

/-! ### Lists of conditions -/

/-- The words in front of a condition. -/
theorem words {joint : Joint} (h : Text.Avoids V.special joint.joiner) (isFirst : Bool) :
    Parts rel [] ((joint.words isFirst).map .plain) ((joint.words isFirst).map .plain) := by
  have hon : Parts rel [] ((if isFirst && joint.opensOn then ["ON"] else []).map Query.plain)
      ((if isFirst && joint.opensOn then ["ON"] else []).map Query.plain) := by
    split
    · exact .singleton (law.word (by decide))
    · exact .nil
  have hjoiner : Text.Avoids V.special (if isFirst then joint.opening else joint.joiner) := by
    split
    · exact Joint.avoids_opening h
    · exact h
  have hlead : ∀ s : String, Text.Avoids V.special s →
      Parts rel [] ((if s = "" then [] else [s]).map Query.plain)
        ((if s = "" then [] else [s]).map Query.plain) := by
    intro s hs
    split
    · exact .nil
    · exact .singleton (law.text s hs)
  simp only [Joint.words, List.map_append]
  exact hon.append (hlead _ hjoiner)

set_option linter.unusedSectionVars false in
mutual

theorem pieces {qualifier : Option String} (hq : ∀ q ∈ qualifier, Text.Avoids V.special q)
    (isBound isFirst : Bool) : ∀ c : Condition, c.Fits V isBound →
      Agree (Parts rel (c.values spare isBound)) (c.pieces (Dialect.ofEngine e) qualifier isBound isFirst)
        ((c.refit f isBound).pieces (Dialect.ofEngine e') qualifier isBound isFirst)
  | .test joint key operator operand, ⟨hjoint, hkey, hoperator, hoperand⟩ => by
      rw [Condition.refit, Condition.pieces, Condition.pieces]
      refine (law.comparison hq hkey hoperator hoperand).bind fun q q' hbody => ?_
      exact Agree.pure ((law.words hjoint isFirst).append (.singleton hbody))
  | .group joint members, ⟨hjoint, hmembers⟩ => by
      rw [Condition.refit, Condition.pieces, Condition.pieces]
      refine (piecesOf (fun q h => absurd h (Option.not_mem_none q)) true true members hmembers).bind
        fun qs qs' hbody => ?_
      refine Agree.pure ((law.words hjoint isFirst).append (.singleton ?_))
      exact law.enclosed (law.joined (V.avoids (by decide)) hbody)
  | .columns joint names, ⟨hjoint, hnames⟩ => by
      rw [Condition.refit, Condition.pieces, Condition.pieces]
      refine (law.nameList hnames).bind fun s t hbody => ?_
      exact Agree.pure ((law.words hjoint isFirst).append (.singleton (law.enclosed hbody)))

theorem piecesOf {qualifier : Option String} (hq : ∀ q ∈ qualifier, Text.Avoids V.special q)
    (isBound isFirst : Bool) : ∀ conditions : List Condition, Condition.AllFit V isBound conditions →
      Agree (Parts rel (Condition.valuesOf spare isBound conditions))
        (Condition.piecesOf (Dialect.ofEngine e) qualifier isBound isFirst conditions)
        (Condition.piecesOf (Dialect.ofEngine e') qualifier isBound isFirst
          (Condition.refitAll f isBound conditions))
  | [], _ => by
      rw [Condition.refitAll, Condition.piecesOf]
      exact Agree.pure .nil
  | c :: rest, ⟨hc, hrest⟩ => by
      rw [Condition.refitAll, Condition.piecesOf, Condition.piecesOf]
      refine (pieces hq isBound isFirst c hc).bind fun qs qs' hfront => ?_
      refine (piecesOf hq isBound false rest hrest).bind fun ps ps' hback => ?_
      exact Agree.pure (hfront.append hback)

end

/-- The expression that a list of conditions makes up. -/
theorem expression {qualifier : Option String} (hq : ∀ q ∈ qualifier, Text.Avoids V.special q) {isBound : Bool}
    {conditions : List Condition} (h : Condition.AllFit V isBound conditions) :
    Agree (rel (Condition.valuesOf spare isBound conditions))
      (Condition.expression (Dialect.ofEngine e) qualifier isBound conditions)
      (Condition.expression (Dialect.ofEngine e') qualifier isBound (Condition.refitAll f isBound conditions)) := by
  unfold Condition.expression
  refine (law.piecesOf hq isBound true conditions h).bind fun qs qs' hqs => ?_
  exact Agree.pure (law.joined (V.avoids (by decide)) hqs)

omit law in
theorem isEmpty_refitAll (f : Refit) (isBound : Bool) (conditions : List Condition) :
    (Condition.refitAll f isBound conditions).isEmpty = conditions.isEmpty := by
  cases conditions with
  | nil => rfl
  | cons c rest => rfl

/-- The expression behind its keyword. -/
theorem conditionClause {qualifier : Option String} (hq : ∀ q ∈ qualifier, Text.Avoids V.special q)
    {keyword : String} (hkeyword : Text.Avoids V.special keyword) {conditions : List Condition}
    (h : Condition.AllFit V true conditions) :
    Agree (rel (Condition.valuesOf spare true conditions))
      (Condition.clause (Dialect.ofEngine e) qualifier keyword conditions)
      (Condition.clause (Dialect.ofEngine e') qualifier keyword (Condition.refitAll f true conditions)) := by
  unfold Condition.clause
  rw [isEmpty_refitAll]
  split
  · rename_i hempty
    rw [List.isEmpty_iff] at hempty
    subst hempty
    exact Agree.pure (law.word (by decide))
  · refine (law.expression hq h).bind fun q q' hbody => ?_
    exact Agree.pure (law.before (hkeyword.append (V.avoids (by decide))) hbody)

end Vocabulary.Respects

end SqlBuilder
