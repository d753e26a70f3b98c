import SqlBuilder.Value

/-!
Values in writing. Where a text is needed a text stands for itself, a fragment of SQL for what it holds, and
a statement for its SQL with the values in place; anything else is shown. In place of a placeholder a value
is written as a literal. What holds no text where it should has no writing.
-/

namespace SqlBuilder

/-- A text literal between single quotes, where a quote inside is written twice. -/
def quoteLiteral (s : String) : String := "'" ++ Text.replaceChar '\'' "''" s ++ "'"

/-- A text literal for a database that may read a backslash as an escape, which is written twice then. -/
def quoteFor (hasEscapes : Bool) (s : String) : String :=
  quoteLiteral (if hasEscapes then Text.replaceChar '\\' "\\\\" s else s)

namespace Value

mutual

/-- The text that a value is written as. -/
def written? : Value → Option String
  | .text s => some s
  | .surrogates s => some s
  | .raw content _ => content.text?
  | .statement sql bindings hasEscapes =>
    sql.text?.bind fun s => (filled? hasEscapes s.toList bindings).map String.ofList
  | v => some v.shown
termination_by structural x => x

/-- A value as it is written in place of its placeholder: a sequence as the text of its items. -/
def literal? (hasEscapes : Bool) : Value → Option String
  | .null => some "NULL"
  | .bool b => some (if b then "1" else "0")
  | .text s => some (quoteFor hasEscapes s)
  | .list items => (writtenAll? items).map fun parts => quoteFor hasEscapes (Text.joined "," parts)
  | .tuple items => (writtenAll? items).map fun parts => quoteFor hasEscapes (Text.joined "," parts)
  | .raw content _ => content.text?
  | .statement sql bindings inner =>
    sql.text?.bind fun s => (filled? inner s.toList bindings).map String.ofList
  | v => some v.shown
termination_by structural x => x

def writtenAll? : List Value → Option (List String)
  | [] => some []
  | v :: rest => (written? v).bind fun front => (writtenAll? rest).map (front :: ·)
termination_by structural x => x

/-- Every question mark gives way to the next value, as long as there is one. -/
def filled? (hasEscapes : Bool) (cs : List Char) : List Value → Option (List Char)
  | [] => some cs
  | v :: rest => match Text.splitFirstChars '?' cs with
    | (_, none) => some cs
    | (front, some behind) =>
      (literal? hasEscapes v).bind fun text =>
        (filled? hasEscapes behind rest).map fun behind => front ++ text.toList ++ behind
termination_by structural x => x

end

end Value

end SqlBuilder
