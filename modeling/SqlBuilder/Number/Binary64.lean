/-!
Double precision numbers as their 64 bits: a sign, eleven bits of exponent and 52 of fraction.
Every function here works on exact integers, so what a number is and how a quotient is rounded can
be reasoned about. Rounding is to the nearest number, and a tie goes to the even one.
-/

namespace SqlBuilder.Number

structure Binary64 where
  bits : UInt64
  deriving DecidableEq, Inhabited

/-- What a number is apart from its sign. -/
inductive Magnitude where
  /-- `significand * 2 ^ exponent`. -/
  | finite (significand : Nat) (exponent : Int)
  | infinite
  | notANumber
  deriving DecidableEq

namespace Binary64

def isNegative (x : Binary64) : Bool := Nat.pow 2 63 ≤ x.bits.toNat

def exponentField (x : Binary64) : Nat := x.bits.toNat / Nat.pow 2 52 % Nat.pow 2 11

def fraction (x : Binary64) : Nat := x.bits.toNat % Nat.pow 2 52

/-- The value without its sign. The least exponent has no hidden bit, the greatest stands for
infinity and for what is no number. -/
def magnitude (x : Binary64) : Magnitude :=
  if x.exponentField = 2047 then if x.fraction = 0 then .infinite else .notANumber
  else if x.exponentField = 0 then .finite x.fraction (-1074)
  else .finite (Nat.pow 2 52 + x.fraction) (x.exponentField - 1075)

/-- The number with the given sign whose other bits are `n`. -/
def ofFields (negative : Bool) (n : Nat) : Binary64 :=
  ⟨UInt64.ofNat (if negative then Nat.pow 2 63 + n else n)⟩

def infinity (negative : Bool) : Binary64 := ofFields negative (2047 * Nat.pow 2 52)

/-- What is no number. Different marks tell one such thing from another, which nothing else does. -/
def marked (mark : Nat) : Binary64 := ofFields false (2047 * Nat.pow 2 52 + Nat.pow 2 51 + mark % Nat.pow 2 51)

def notANumber : Binary64 := marked 0

def zero (negative : Bool) : Binary64 := ofFields negative 0

/-- The integer nearest to the quotient, the even one of two. -/
def roundQuotient (numerator denominator : Nat) : Nat :=
  let floor := numerator / denominator
  let rest := 2 * (numerator % denominator)
  if rest < denominator || (rest == denominator && floor % 2 == 0) then floor else floor + 1

/-- The quotient of a nonzero number by a power of two. -/
def scaleDown (numerator denominator : Nat) (exponent : Int) : Nat × Nat :=
  match exponent with
  | .ofNat n => (numerator, denominator * Nat.pow 2 n)
  | .negSucc n => (numerator * Nat.pow 2 (n + 1), denominator)

/-- The exponent of the leading binary digit of a quotient of nonzero numbers. -/
def leadingExponent (numerator denominator : Nat) : Int :=
  let guess : Int := numerator.log2 - denominator.log2
  let (n, d) := scaleDown numerator denominator guess
  if n < d then guess - 1 else guess

/-- The number nearest to a quotient. The significand is counted in units of the last place, and
adding it to the exponent field as it is lets a carry raise the exponent. -/
def ofQuotient (negative : Bool) (numerator denominator : Nat) : Binary64 :=
  if numerator = 0 || denominator = 0 then zero negative
  else
    let unit := max (leadingExponent numerator denominator - 52) (-1074)
    let (n, d) := scaleDown numerator denominator unit
    let fields := (unit + 1074).toNat * Nat.pow 2 52 + roundQuotient n d
    if 2047 * Nat.pow 2 52 ≤ fields then infinity negative else ofFields negative fields

/-- The number nearest to an integer, if that is finite. -/
def ofInt? (i : Int) : Option Binary64 :=
  let x := ofQuotient (i < 0) i.natAbs 1
  if x.exponentField = 2047 then none else some x

/-- The number nearest to `digits * 10 ^ exponent`. Beyond four hundred places on either side the
answer is known without computing the power. -/
def ofDecimal (negative : Bool) (digits : Nat) (exponent : Int) : Binary64 :=
  let place : Int := (Nat.toDigits 10 digits).length + exponent
  if digits = 0 then zero negative
  else if 400 < place then infinity negative
  else if place < -400 then zero negative
  else match exponent with
    | .ofNat n => ofQuotient negative (digits * Nat.pow 10 n) 1
    | .negSucc n => ofQuotient negative digits (Nat.pow 10 (n + 1))

/-- The integer part of a magnitude. -/
def integerPart (significand : Nat) : Int → Nat
  | .ofNat n => significand * Nat.pow 2 n
  | .negSucc n => significand / Nat.pow 2 (n + 1)

/-- The number is finite and has no fractional part. -/
def isIntegral (x : Binary64) : Bool :=
  match x.magnitude with
  | .finite m (.negSucc n) => m % Nat.pow 2 (n + 1) == 0
  | .finite _ (.ofNat _) => true
  | _ => false

/-- The integer on the way to zero, if the number is finite. -/
def truncate? (x : Binary64) : Option Int :=
  match x.magnitude with
  | .finite m e => some (if x.isNegative then -(integerPart m e : Int) else integerPart m e)
  | _ => none

def isNaN (x : Binary64) : Bool := x.magnitude = .notANumber

/-- Equal as numbers: the zeros are equal, and what is no number equals nothing. -/
def same (x y : Binary64) : Bool :=
  !x.isNaN && !y.isNaN && (x = y || (x.magnitude = .finite 0 (-1074) && y.magnitude = .finite 0 (-1074)))

/-- The number is the integer, without rounding. -/
def sameInt (x : Binary64) (i : Int) : Bool := x.isIntegral && x.truncate? == some i

/-! ### Arithmetic -/

/-- The number with the other sign. -/
def negated (x : Binary64) : Binary64 :=
  ofFields (!x.isNegative) (x.bits.toNat % Nat.pow 2 63)

/-- The number nearest to `significand * 2 ^ exponent`. -/
def ofScaled (negative : Bool) (significand : Nat) (exponent : Int) : Binary64 :=
  match exponent with
  | .ofNat n => ofQuotient negative (significand * Nat.pow 2 n) 1
  | .negSucc n => ofQuotient negative significand (Nat.pow 2 (n + 1))

/-- The number nearest to the product. -/
def times (x y : Binary64) : Binary64 :=
  let negative := x.isNegative != y.isNegative
  match x.magnitude, y.magnitude with
  | .notANumber, _ => notANumber
  | _, .notANumber => notANumber
  | .infinite, .finite n _ => if n = 0 then notANumber else infinity negative
  | .finite m _, .infinite => if m = 0 then notANumber else infinity negative
  | .infinite, .infinite => infinity negative
  | .finite m e, .finite n f => ofScaled negative (m * n) (e + f)

/-- A magnitude with its sign, in units of a power of two that is not above its own. -/
def inUnits (x : Binary64) (significand : Nat) (exponent unit : Int) : Int :=
  let scaled : Int := significand * Nat.pow 2 (exponent - unit).toNat
  if x.isNegative then -scaled else scaled

/-- The number nearest to the sum. A sum of zero has a sign only if both numbers have it. -/
def plus (x y : Binary64) : Binary64 :=
  match x.magnitude, y.magnitude with
  | .notANumber, _ => notANumber
  | _, .notANumber => notANumber
  | .infinite, .infinite => if x.isNegative = y.isNegative then x else notANumber
  | .infinite, _ => x
  | _, .infinite => y
  | .finite m e, .finite n f =>
    let unit := min e f
    let sum := x.inUnits m e unit + y.inUnits n f unit
    if sum = 0 then zero (x.isNegative && y.isNegative) else ofScaled (sum < 0) sum.natAbs unit

end Binary64

end SqlBuilder.Number
