import SqlBuilder.Text.Case
import SqlBuilder.Yaml.Fault
import SqlBuilder.Yaml.Timestamp

/-!
What scalars of YAML stand for. The form of a plain one decides: a truth value, a number in one of several
notations, a date, nothing, or the text itself. A kind can also be declared for a text of any form, and then
the text is read as one of that kind as far as it can be.
-/

namespace SqlBuilder.Yaml

open Number (Binary64)

/-- The kinds of nodes. -/
inductive Tag where
  | null
  | bool
  | int
  | float
  | text
  | timestamp
  /-- The key under which a mapping takes over the entries of others. -/
  | merge
  /-- An equals sign. -/
  | equals
  | sequence
  | mapping
  /-- A list of mappings with one entry each, which stand for pairs. -/
  | pairs
  /-- A mapping of which only the keys count. -/
  | set
  /-- Bytes, written with sixty-four characters. -/
  | binary
  /-- A kind that is declared and not known. -/
  | other (name : String)
  deriving DecidableEq, Repr

namespace Tag

/-- The beginning of the names of the kinds that are known. -/
def lead : String := "tag:yaml.org,2002:"

def known : List (String × Tag) :=
  [("null", null), ("bool", bool), ("int", int), ("float", float), ("str", text), ("timestamp", timestamp),
    ("merge", merge), ("value", equals), ("seq", sequence), ("map", mapping),
    ("pairs", pairs), ("omap", pairs), ("set", set), ("binary", binary)]

/-- The kind of that full name. -/
def ofName (name : String) : Tag :=
  match known.find? fun entry => lead ++ entry.1 = name with
  | some (_, tag) => tag
  | none => other name

end Tag

namespace Scalar

def isNull (s : String) : Bool := ["", "~", "null", "Null", "NULL"].contains s

def truths : List String := ["yes", "Yes", "YES", "true", "True", "TRUE", "on", "On", "ON"]

def falsehoods : List String := ["no", "No", "NO", "false", "False", "FALSE", "off", "Off", "OFF"]

/-! ### Forms of numbers -/

/-- The text without a sign in front. -/
def unsigned : List Char → List Char
  | '+' :: rest => rest
  | '-' :: rest => rest
  | cs => cs

def isDigitOrLine (c : Char) : Bool := c.isDigit || c = '_'

/-- Digits with low lines, of which the first is a digit. -/
def isDigits : List Char → Bool
  | [] => false
  | c :: rest => c.isDigit && rest.all isDigitOrLine

/-- A place of a number with the base sixty, behind the first: at most two digits, below sixty. -/
def isSixtieth : List Char → Bool
  | [c] => c.isDigit
  | [c, d] => '0' ≤ c && c ≤ '5' && d.isDigit
  | _ => false

/-- Several places with the base sixty. -/
def isSexagesimal (lead : List Char → Bool) (cs : List Char) : Bool :=
  match Text.splitChars ':' cs with
  | first :: second :: rest => lead first && isSixtieth second && rest.all isSixtieth
  | _ => false

def isWholeDecimal : List Char → Bool
  | ['0'] => true
  | c :: rest => c.isDigit && c ≠ '0' && rest.all isDigitOrLine
  | [] => false

/-- Digits of a base behind their mark, perhaps with low lines. -/
def isBased (mark : List Char) (isDigit : Char → Bool) (cs : List Char) : Bool :=
  match Text.dropLead? mark cs with
  | some digits => !digits.isEmpty && digits.all fun c => isDigit c || c = '_'
  | none => false

def isOctalDigit (c : Char) : Bool := '0' ≤ c && c ≤ '7'

def isHexDigit (c : Char) : Bool := c.isDigit || ('a' ≤ c && c ≤ 'f') || ('A' ≤ c && c ≤ 'F')

def isInt (cs : List Char) : Bool :=
  let body := unsigned cs
  isBased ['0', 'b'] (fun c => c = '0' || c = '1') body || isBased ['0'] isOctalDigit body ||
    isWholeDecimal body || isBased ['0', 'x'] isHexDigit body ||
    isSexagesimal (fun first => isWholeDecimal first && first ≠ ['0']) body

/-- An exponent with its sign, or nothing. -/
def isExponent : List Char → Bool
  | [] => true
  | c :: sign :: digits =>
    (c = 'e' || c = 'E') && (sign = '+' || sign = '-') && !digits.isEmpty && digits.all Char.isDigit
  | _ => false

/-- What stands behind the point of a number. -/
def isFraction (cs : List Char) : Bool := isExponent (cs.dropWhile isDigitOrLine)

def isFloat (cs : List Char) : Bool :=
  let body := unsigned cs
  let parts := Text.splitFirstChars '.' body
  (match parts with
    | (whole, some fraction) =>
      (isDigits whole && isFraction fraction) ||
        (isSexagesimal isDigits whole && fraction.all isDigitOrLine)
    | (_, none) => false) ||
    (match cs with
      | '.' :: c :: rest => c.isDigit && isFraction rest
      | _ => false) ||
    [".inf", ".Inf", ".INF"].contains (String.ofList body) ||
    [".nan", ".NaN", ".NAN"].contains (String.ofList cs)

/-- Marks that no plain scalar begins with. Alone they are of a kind of their own, which stands for nothing. -/
def marks : List String := ["!", "&", "*"]

/-- The kind that the form of a line tells. -/
def tagOfLine (s : String) : Tag :=
  let cs := s.toList
  if truths.contains s || falsehoods.contains s then .bool
  else if isFloat cs then .float
  else if isInt cs then .int
  else if s = "<<" then .merge
  else if isNull s then .null
  else if (Timestamp.ofChars? 2 cs).isSome then .timestamp
  else if s = "=" then .equals
  else if marks.contains s then .other (Tag.lead ++ "yaml")
  else .text

/-- The text without a break at its end. -/
def dropBreak (s : String) : String :=
  match s.toList.reverse with
  | '\n' :: rest => String.ofList rest.reverse
  | _ => s

/-- The kind that the form of a scalar tells. A break at the end does not matter, unless it is all there is. -/
def tagOf (s : String) : Tag := if s = "\n" then .text else tagOfLine (dropBreak s)

/-! ### Values -/

/-- The text without low lines, as numbers are read. -/
def withoutLines (s : String) : String := String.ofList (s.toList.filter (· ≠ '_'))

/-- A sign is taken off the front. A number must say something with and without it. -/
def takeSign (cs : List Char) : Except LoadFault (Bool × List Char) :=
  match cs with
  | [] => throw .emptyNumber
  | _ => pure (Number.takeSign cs)

def numeral (base : Nat) (cs : List Char) : Except LoadFault Int :=
  (Number.integerOfChars base cs).mapError LoadFault.numeral

/-- The integer of a text without a sign of its own: in a base by its mark, with the base sixty between
colons, or decimal. -/
def unsignedInt (cs : List Char) : Except LoadFault Int :=
  match cs with
  | [] => throw .emptyNumber
  | ['0'] => pure 0
  | '0' :: 'b' :: digits => numeral 2 digits
  | '0' :: 'x' :: digits => numeral 16 digits
  | '0' :: _ => numeral 8 cs
  | cs =>
    if cs.contains ':' then do
      let places ← (Text.splitChars ':' cs).mapM (numeral 10)
      pure (places.foldl (fun n place => 60 * n + place) 0)
    else numeral 10 cs

/-- The integer that a text counts as. -/
def int (s : String) : Except LoadFault Int := do
  let (negative, body) ← takeSign (withoutLines s).toList
  let n ← unsignedInt body
  pure (if negative then -n else n)

def fraction (cs : List Char) : Except LoadFault Binary64 :=
  match Number.binary64OfText? (String.ofList cs) with
  | some x => pure x
  | none => throw (.number (String.ofList cs))

/-- The sum of places with the base sixty, the lowest first, each multiplied by its weight and added to
those in front of it. Every step is rounded. -/
def weighted : Nat → Binary64 → List Binary64 → Except LoadFault Binary64
  | _, sum, [] => pure sum
  | weight, sum, place :: rest =>
    match Binary64.ofInt? weight with
    | none => throw .weightTooLarge
    | some factor => weighted (60 * weight) (sum.plus (place.times factor)) rest

/-- The number that a text counts as. What is no number gets the given mark, but for the common one that has
a name of its own. -/
def float (mark : Nat) (s : String) : Except LoadFault Binary64 := do
  let (negative, body) ← takeSign (Text.lower (withoutLines s)).toList
  let signed (x : Binary64) : Binary64 :=
    if x.isNaN then .marked mark else if negative then x.negated else x
  match String.ofList body with
  | ".inf" => pure (.infinity negative)
  | ".nan" => pure .notANumber
  | _ =>
    if body.contains ':' then do
      let places ← (Text.splitChars ':' body).mapM fraction
      pure (signed (← weighted 1 (.zero false) places.reverse))
    else pure (signed (← fraction body))

/-- The truth value that a text counts as, in whatever case. -/
def bool (s : String) : Except LoadFault Bool :=
  let name := Text.lower s
  if ["yes", "true", "on"].contains name then pure true
  else if ["no", "false", "off"].contains name then pure false
  else throw .unknownTruth

/-- The date that a text counts as. The zone is looked at before the calendar. -/
def timestamp (s : String) : Except LoadFault Moment :=
  match Timestamp.ofChars? 1 (dropBreak s).toList with
  | none => throw .noDate
  | some m =>
    match m.time.bind (·.offset) with
    | some offset => if 1440 ≤ offset.natAbs then throw (.zone offset) else known m
    | none => known m
where
  known (m : Moment) : Except LoadFault Moment :=
    match m.refusal? with
    | none => pure m
    | some refusal => throw (.date refusal)

end Scalar

end SqlBuilder.Yaml
