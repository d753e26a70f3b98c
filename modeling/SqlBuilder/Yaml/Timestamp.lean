import SqlBuilder.Moment
import SqlBuilder.Number.Numeral

/-!
Dates in the way that YAML writes them, perhaps with a time and its zone. The form of a text tells that it is
a date. Whether the calendar has it is another question.
-/

namespace SqlBuilder.Yaml

namespace Timestamp

/-- The value of a run of digits with a length between two bounds, and what follows. -/
def takeNumber? (least most : Nat) (cs : List Char) : Option (Nat × List Char) :=
  let run := (cs.take most).takeWhile Char.isDigit
  if least ≤ run.length then some (Number.digitsValue run, cs.drop run.length) else none

def dropChar? (test : Char → Bool) : List Char → Option (List Char)
  | [] => none
  | c :: rest => if test c then some rest else none

def isBlank (c : Char) : Bool := c = ' ' || c = '\t'

/-- The zone that a text is, as the minutes that its clock is ahead. There may be none. -/
def zone? (cs : List Char) : Option (Option Int) :=
  match cs.dropWhile isBlank with
  | [] => if cs.isEmpty then some none else none
  | ['Z'] => some (some 0)
  | sign :: rest => do
    if sign ≠ '+' && sign ≠ '-' then none
    let (hours, rest) ← takeNumber? 1 2 rest
    let (minutes, rest) ← match rest with
      | ':' :: rest => takeNumber? 2 2 rest
      | rest => some (0, rest)
    if !rest.isEmpty then none
    let offset : Int := 60 * hours + minutes
    some (some (if sign = '-' then -offset else offset))

/-- A date without a time. Its month and its day have at least so many digits. -/
def date? (least : Nat) (cs : List Char) : Option (Moment × List Char) := do
  let (year, cs) ← takeNumber? 4 4 cs
  let (month, cs) ← takeNumber? least 2 (← dropChar? (· = '-') cs)
  let (day, cs) ← takeNumber? least 2 (← dropChar? (· = '-') cs)
  pure (⟨year, month, day, none⟩, cs)

/-- The mark between a date and its time: a letter, or blanks. -/
def dropSeparator? : List Char → Option (List Char)
  | [] => none
  | c :: rest =>
    if c = 'T' || c = 't' then some rest
    else if isBlank c then some (rest.dropWhile isBlank)
    else none

/-- The microseconds that the digits behind the point of a second tell. -/
def microseconds (digits : List Char) : Nat :=
  let known := digits.take 6
  Number.digitsValue (known ++ List.replicate (6 - known.length) '0')

/-- A time up to its zone. -/
def timeOfDay? (cs : List Char) : Option (TimeOfDay × List Char) := do
  let (hour, cs) ← takeNumber? 1 2 cs
  let (minute, cs) ← takeNumber? 2 2 (← dropChar? (· = ':') cs)
  let (second, cs) ← takeNumber? 2 2 (← dropChar? (· = ':') cs)
  match cs with
  | '.' :: rest =>
    pure (⟨hour, minute, second, microseconds (rest.takeWhile Char.isDigit), none⟩,
      rest.dropWhile Char.isDigit)
  | cs => pure (⟨hour, minute, second, 0, none⟩, cs)

/-- A date with a time. -/
def moment? (cs : List Char) : Option Moment := do
  let (date, cs) ← date? 1 cs
  let (time, cs) ← timeOfDay? (← dropSeparator? cs)
  let offset ← zone? cs
  pure { date with time := some { time with offset } }

/-- The moment that has the form of the text. A date without a time needs all of its digits to be known by
its form. -/
def ofChars? (least : Nat) (cs : List Char) : Option Moment :=
  match date? least cs with
  | some (date, []) => some date
  | _ => moment? cs

end Timestamp

end SqlBuilder.Yaml
