import SqlBuilder.Number.Binary64
import SqlBuilder.Text.Digit
import SqlBuilder.Text.Quoted
import SqlBuilder.Text.Strip

/-!
Reading numbers from text. Digits may be of any script, and white space around a numeral is passed over. In
a numeral with a fraction a low line may stand between two digits.
-/

namespace SqlBuilder.Number

open SqlBuilder.Text (decimalDigit?)

/-- Decimal digits of every script as those of the first, all other characters as they are. -/
def plainDigits (cs : List Char) : List Char :=
  cs.map fun c => match decimalDigit? c with
    | some n => Nat.digitChar n
    | none => c

/-- The value of a sequence of plain digits. -/
def digitsValue (cs : List Char) : Nat := cs.foldl (fun n c => 10 * n + (c.toNat - '0'.toNat)) 0

/-- A sign in front, if there is one, and what follows. -/
def takeSign : List Char → Bool × List Char
  | '-' :: rest => (true, rest)
  | '+' :: rest => (false, rest)
  | cs => (false, cs)

/-! ### Integers -/

/-- Why a text is no integer. -/
inductive NumeralFault where
  /-- The text is no numeral of the base. -/
  | malformed (base : Nat) (text : List Char)
  /-- The numeral has more digits than are read. -/
  | tooLong (digits : Nat)
  deriving DecidableEq, Repr

/-- The most digits of a decimal numeral that is read. -/
def maxDigits : Nat := 4300

namespace NumeralFault

/-- The reason in words. Of a long text the beginning is shown. -/
def message : NumeralFault → String
  | malformed base text => "invalid literal for int() with base " ++ toString base ++ ": " ++
      String.ofList ((Text.quoted (String.ofList text)).toList.take 200)
  | tooLong digits => "Exceeds the limit (" ++ toString maxDigits ++
      " digits) for integer string conversion: value has " ++ toString digits ++
      " digits; use sys.set_int_max_str_digits() to increase the limit"

end NumeralFault

/-- The value of a digit, of which letters are those above nine. -/
def digitValue? (c : Char) : Option Nat :=
  if c.isDigit then some (c.toNat - '0'.toNat)
  else if 'a' ≤ c && c ≤ 'z' then some (c.toNat - 'a'.toNat + 10)
  else if 'A' ≤ c && c ≤ 'Z' then some (c.toNat - 'A'.toNat + 10)
  else none

def isDigitOf (base : Nat) (c : Char) : Bool := (digitValue? c).any (· < base)

/-- The letters that may mark the digits of a base, behind a zero. -/
def baseMarks : Nat → List Char
  | 2 => ['b', 'B']
  | 8 => ['o', 'O']
  | 16 => ['x', 'X']
  | _ => []

/-- What follows the mark of a base, if there is one. -/
def dropBaseMark (base : Nat) : List Char → List Char
  | '0' :: mark :: rest => if (baseMarks base).contains mark then rest else '0' :: mark :: rest
  | cs => cs

/-- The integer that a text is in a base: digits behind perhaps a sign and the mark of the base, with white
space around. -/
def integerOfChars (base : Nat) (text : List Char) : Except NumeralFault Int :=
  let (negative, marked) := takeSign (Text.trimChars (plainDigits text))
  let body := dropBaseMark base marked
  let digits := body.takeWhile (isDigitOf base)
  if base = 10 && maxDigits < digits.length then .error (.tooLong digits.length)
  else if digits.isEmpty || digits.length < body.length then .error (.malformed base text)
  else
    let n := digits.foldl (fun n c => base * n + (digitValue? c).getD 0) 0
    .ok (if negative then -(n : Int) else n)

/-! ### Fractions -/

/-- Low lines between digits are left out; a low line elsewhere spoils the numeral. The flag tells
whether the character in front is a digit. -/
def dropLowLines? : Bool → List Char → Option (List Char)
  | _, [] => some []
  | afterDigit, '_' :: rest =>
    match rest with
    | d :: _ => if afterDigit && d.isDigit then dropLowLines? false rest else none
    | [] => none
  | _, c :: rest => (dropLowLines? c.isDigit rest).map (c :: ·)

/-- The exponent at the end of a numeral: nothing, or a mark, perhaps a sign, and digits. -/
def exponent? : List Char → Option Int
  | [] => some 0
  | c :: rest =>
    let (negative, digits) := takeSign rest
    if (c = 'e' || c = 'E') && !digits.isEmpty && digits.all Char.isDigit then
      some (if negative then -(digitsValue digits : Int) else digitsValue digits)
    else none

/-- A numeral without sign: digits with a point somewhere, and perhaps an exponent. -/
def unsignedDecimal? (negative : Bool) (cs : List Char) : Option Binary64 :=
  let whole := cs.takeWhile Char.isDigit
  let (part, rest) := match cs.dropWhile Char.isDigit with
    | '.' :: behind => (behind.takeWhile Char.isDigit, behind.dropWhile Char.isDigit)
    | behind => ([], behind)
  if whole.isEmpty && part.isEmpty then none
  else (exponent? rest).map fun e => .ofDecimal negative (digitsValue (whole ++ part)) (e - part.length)

/-- The double precision number that a text is read as. -/
def binary64OfText? (s : String) : Option Binary64 := do
  let cs ← dropLowLines? false (plainDigits (Text.trimChars s.toList))
  let (negative, body) := takeSign cs
  match String.ofList (body.map Char.toLower) with
  | "inf" | "infinity" => some (.infinity negative)
  | "nan" => some .notANumber
  | _ => unsignedDecimal? negative body

end SqlBuilder.Number
