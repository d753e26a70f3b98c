import SqlBuilder.Dialect
import SqlBuilder.Statement
import SqlBuilder.Text.Word

/-!
Conditions in writing. A list of conditions becomes one expression, in which every condition but the
first is led by its joiner; the first one loses the `AND` or `OR`, but keeps a `NOT` behind it.
-/

namespace SqlBuilder

/-- The text behind a word in capital letters that leads it, in whatever case the word is written. -/
def dropWord? (word cs : List Char) : Option (List Char) :=
  let rest := cs.drop word.length
  if (cs.take word.length).map Char.toUpper = word && !(rest.head?.any Text.isWordChar) then some rest
  else none

namespace Joint

/-- The joiner without a leading `AND` or `OR`, for the first condition of an expression. -/
def opening (joint : Joint) : String :=
  let cs := joint.joiner.toList
  let body := Text.stripLeftChars cs
  Text.strip (String.ofList (((dropWord? ['A', 'N', 'D'] body).or (dropWord? ['O', 'R'] body)).getD cs))

/-- The words in front of a condition. -/
def words (joint : Joint) (isFirst : Bool) : List String :=
  let joiner := if isFirst then joint.opening else joint.joiner
  (if isFirst && joint.opensOn then ["ON"] else []) ++ (if joiner = "" then [] else [joiner])

end Joint

/-- A fragment of SQL with its values, or the text of anything else without any. -/
def fragmentOf (v : Value) : Except Fault Query := do
  pure ⟨← v.written, v.fragmentBindings⟩

/-- A value where a statement takes one: a fragment of SQL is written out, anything else is bound. -/
def operandOf (v : Value) : Except Fault Query := if v.isRaw then fragmentOf v else pure ⟨"?", [v]⟩

/-- The values one after the other with commas in between. -/
def operandsOf (values : List Value) : Except Fault Query := do
  pure (Query.joined ", " (← values.mapM operandOf))

/-- The names with commas in between. The values of fragments among them are left out. -/
def nameList (d : Dialect) (names : List Value) : Except Fault String := do
  pure (Text.joined ", " (← names.mapM d.identifier))

/-- The left side of a comparison. A column without a qualifier gets the one of the statement. -/
def comparedKey (d : Dialect) (qualifier : Option String) (key : Value) : Except Fault Query := do
  if key.isRaw then fragmentOf key
  else
    let name ← d.identifier key
    match qualifier with
    | none => pure (.plain name)
    | some qualifier =>
      pure (.plain (if name.toList.contains '.' then name else qualifier ++ "." ++ name))

/-- A comparison with the items of a sequence: with the first two for `BETWEEN`, with all of them for
any other operator. -/
def comparedItems (key : Query) (operator : Value) (items : List Value) : Except Fault Query := do
  if operator.same (.text "BETWEEN") then
    let low :: rest := items | throw .outOfRange
    let low ← operandOf low
    let high :: _ := rest | throw .outOfRange
    pure (key ++ .plain " BETWEEN " ++ low ++ .plain " AND " ++ (← operandOf high))
  else
    let operands ← operandsOf items
    pure (key ++ .plain (" " ++ (← operator.written) ++ " ") ++ operands.enclosed)

/-- A comparison. Where values are bound the operand becomes a placeholder, elsewhere it is the
identifier of a column; fragments of SQL and the items of sequences are written in either case. -/
def comparison (d : Dialect) (qualifier : Option String) (isBound : Bool)
    (key operator operand : Value) : Except Fault Query := do
  let left ← comparedKey d qualifier key
  match operand.items? with
  | some items => comparedItems left operator items
  | none =>
    if isBound && !operand.isRaw && key.isRaw && operator.isNull then pure left
    else
      let right ← if operand.isRaw then fragmentOf operand
        else if isBound then pure ⟨"?", [operand]⟩
        else if operand.isNull then pure (.plain "NULL")
        else do pure (.plain (← d.identifier operand))
      pure (left ++ .plain (" " ++ (← operator.written) ++ " ") ++ right)

namespace Condition

mutual

/-- The pieces of a condition. Inside a group no qualifier is added and values are bound. -/
def pieces (d : Dialect) (qualifier : Option String) (isBound isFirst : Bool) :
    Condition → Except Fault (List Query)
  | .test joint key operator operand => do
    let body ← comparison d qualifier isBound key operator operand
    pure ((joint.words isFirst).map Query.plain ++ [body])
  | .group joint members => do
    let body ← piecesOf d none true true members
    pure ((joint.words isFirst).map Query.plain ++ [(Query.joined " " body).enclosed])
  | .columns joint names => do
    let body ← nameList d names
    pure ((joint.words isFirst).map Query.plain ++ [(Query.plain body).enclosed])

/-- The pieces of conditions that follow each other. -/
def piecesOf (d : Dialect) (qualifier : Option String) (isBound isFirst : Bool) :
    List Condition → Except Fault (List Query)
  | [] => pure []
  | c :: rest => do
    let front ← pieces d qualifier isBound isFirst c
    let back ← piecesOf d qualifier isBound false rest
    pure (front ++ back)

end

/-- The expression that a list of conditions makes up. -/
def expression (d : Dialect) (qualifier : Option String) (isBound : Bool) (conditions : List Condition) :
    Except Fault Query := do
  pure (Query.joined " " (← piecesOf d qualifier isBound true conditions))

/-- The expression behind its keyword, or nothing if there are no conditions. -/
def clause (d : Dialect) (qualifier : Option String) (keyword : String) (conditions : List Condition) :
    Except Fault Query := do
  if conditions.isEmpty then pure (.plain "")
  else pure (.plain (keyword ++ " ") ++ (← expression d qualifier true conditions))

end Condition

end SqlBuilder
