import SqlBuilder.Config.Issue
import SqlBuilder.Number.Numeral

/-!
Integers that are written as text. A numeral in its strict form is read at once. Any other text is trimmed
first: of white space around it, of a plus, of zeros in front, of a fraction of zeros, and of low lines
between its digits.
-/

namespace SqlBuilder.Config

/-- The integer of a numeral in its strict form: perhaps a minus, and digits without zeros in front of them.
The minus counts among the most digits that are read. -/
def strictInteger (cs : List Char) : Except IssueKind Int :=
  let negative := cs.head? = some '-'
  let body := if negative then cs.tail else cs
  let digits := body.takeWhile Char.isDigit
  match digits with
  | [] => throw .numeralExpected
  | '0' :: _ => if body = ['0'] then pure 0 else throw .numeralExpected
  | _ :: _ =>
    if Number.maxDigits < digits.length + (if negative then 1 else 0) then throw .numeralTooLong
    else if digits.length < body.length then throw .numeralExpected
    else
      let n : Int := Number.digitsValue digits
      pure (if negative then -n else n)

/-- The numeral without a plus in front. A minus must not follow the plus. -/
def dropPlus? : List Char → Option (List Char)
  | '+' :: '-' :: _ => none
  | '+' :: rest => some rest
  | cs => some cs

def isDigitNotZero (c : Char) : Bool := c.isDigit && c ≠ '0'

/-- The numeral without zeros and low lines in front, of which the last one stays if a point or nothing
follows. -/
def dropZeros? : List Char → Option (List Char)
  | '0' :: rest =>
    let skipped := '0' :: rest.takeWhile fun c => c = '0' || c = '_'
    match rest.dropWhile fun c => c = '0' || c = '_' with
    | [] => skipped.getLast?.map ([·])
    | '.' :: behind => skipped.getLast?.map (· :: '.' :: behind)
    | c :: behind => if isDigitNotZero c || c = '-' then some (c :: behind) else none
  | c :: rest => if isDigitNotZero c || c = '-' then some (c :: rest) else none
  | [] => none

/-- The numeral without a fraction of zeros. -/
def dropZeroFraction (cs : List Char) : List Char :=
  match Text.splitFirstChars '.' cs with
  | (whole, some fraction) => if !fraction.isEmpty && fraction.all (· = '0') then whole else cs
  | (_, none) => cs

/-- The numeral without low lines, if each of them stands alone between other characters. -/
def dropLines (cs : List Char) : List Char :=
  if cs.head? = some '_' || cs.getLast? = some '_' || Text.containsChars ['_', '_'] cs then cs
  else cs.filter (· ≠ '_')

/-- What of a text is a numeral. -/
def trimmedNumeral? (cs : List Char) : Option (List Char) := do
  let cs ← dropPlus? (Text.trimChars cs)
  pure (dropLines (dropZeroFraction (← dropZeros? cs)))

/-- The integer that a text is read as. -/
def integerOfText (s : String) : Except IssueKind Int :=
  match strictInteger s.toList with
  | .ok i => pure i
  | .error .numeralTooLong => throw .numeralTooLong
  | .error _ => match trimmedNumeral? s.toList with
    | none => throw .numeralExpected
    | some cs => match strictInteger cs with
      | .ok i => pure i
      | .error _ => throw .numeralExpected

end SqlBuilder.Config
