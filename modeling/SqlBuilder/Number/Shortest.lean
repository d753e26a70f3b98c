import SqlBuilder.Number.Binary64

/-!
The decimal text of a double precision number: the fewest digits that read back as the number, and
of those the nearest to it. Digits are tried from one to seventeen. On each grid of decimals only the
two neighbours of the number can be the nearest that reads back, so only these are looked at.
-/

namespace SqlBuilder.Number

/-- `digits * 10 ^ exponent`. -/
structure Decimal where
  digits : Nat
  exponent : Int
  deriving DecidableEq

/-- A number and the ends of the interval of reals that round to it, over one denominator. The ends
belong to the interval if the significand is even. -/
structure Rounding where
  low : Nat
  value : Nat
  high : Nat
  denominator : Nat
  closed : Bool

namespace Rounding

/-- In quarters of a unit in the last place. Below a power of two the units are half as wide. -/
def ofFinite (significand : Nat) (exponent : Int) : Rounding :=
  let isLowest := significand = Nat.pow 2 52 && -1074 < exponent
  let low := 4 * significand - (if isLowest then 1 else 2)
  let high := 4 * significand + 2
  let closed := significand % 2 == 0
  match exponent - 2 with
  | .ofNat n =>
    let scale := Nat.pow 2 n
    ⟨low * scale, 4 * significand * scale, high * scale, 1, closed⟩
  | .negSucc n => ⟨low, 4 * significand, high, Nat.pow 2 (n + 1), closed⟩

/-- The same interval counted in units of `10 ^ exponent`. -/
def inUnits (r : Rounding) : Int → Rounding
  | .ofNat n => { r with denominator := r.denominator * Nat.pow 10 n }
  | .negSucc n =>
    let scale := Nat.pow 10 (n + 1)
    { r with low := r.low * scale, value := r.value * scale, high := r.high * scale }

/-- The integer lies in the interval. -/
def holds (r : Rounding) (n : Nat) : Bool :=
  let x := n * r.denominator
  if r.closed then r.low ≤ x && x ≤ r.high else r.low < x && x < r.high

/-- The integer of the interval that is nearest to the number, the even one of two. -/
def nearest? (r : Rounding) : Option Nat :=
  let floor := r.value / r.denominator
  let below := r.value % r.denominator
  let above := r.denominator - below
  match r.holds floor, r.holds (floor + 1) with
  | true, true =>
    some (if below < above || (below == above && floor % 2 == 0) then floor else floor + 1)
  | true, false => some floor
  | false, true => some (floor + 1)
  | false, false => none

/-- The number of places in front of the point: less than one when the number is below a tenth. -/
def places (r : Rounding) : Int :=
  let whole := r.value / r.denominator
  if 0 < whole then (Nat.toDigits 10 whole).length
  else
    let zeros := ((List.range 400).find? fun n => r.denominator ≤ r.value * Nat.pow 10 (n + 1)).getD 400
    Int.neg zeros

/-- The first grid, from one digit on, that has a decimal in the interval. -/
def shortest (r : Rounding) : Decimal :=
  let tries := (List.range 17).findSome? fun (n : Nat) =>
    let exponent := r.places - (n + 1)
    ((r.inUnits exponent).nearest?).map fun digits => Decimal.mk digits exponent
  tries.getD ⟨0, 0⟩

end Rounding

/-- Zeros at the end of the digits are left out. -/
def trimZeros (digits : List Char) : List Char := (digits.reverse.dropWhile (· == '0')).reverse

/-- The digits of an exponent, two at least, behind its sign. -/
def exponentText (exponent : Int) : List Char :=
  let digits := Nat.toDigits 10 exponent.natAbs
  (if exponent < 0 then '-' else '+') :: (if digits.length < 2 then '0' :: digits else digits)

/-- Digits with the point behind the given number of places. From 10^-4 to below 10^16 they are
written in place, with one digit at least on each side of the point; elsewhere with an exponent. -/
def placed (digits : List Char) (point : Int) : List Char :=
  if -4 < point && point ≤ 16 then
    if point ≤ 0 then '0' :: '.' :: List.replicate (-point).toNat '0' ++ digits
    else
      let width := point.toNat
      let whole := digits.take width ++ List.replicate (width - digits.length) '0'
      let rest := digits.drop width
      whole ++ '.' :: (if rest.isEmpty then ['0'] else rest)
  else
    let head := digits.take 1
    let rest := digits.drop 1
    head ++ (if rest.isEmpty then [] else '.' :: rest) ++ 'e' :: exponentText (point - 1)

namespace Binary64

/-- The decimal text that reads back as the number. -/
def text (x : Binary64) : String :=
  let sign := if x.isNegative then ['-'] else []
  match x.magnitude with
  | .notANumber => "nan"
  | .infinite => String.ofList (sign ++ ['i', 'n', 'f'])
  | .finite 0 _ => String.ofList (sign ++ ['0', '.', '0'])
  | .finite m e =>
    let decimal := (Rounding.ofFinite m e).shortest
    let digits := Nat.toDigits 10 decimal.digits
    String.ofList (sign ++ placed (trimZeros digits) (digits.length + decimal.exponent))

end Binary64

end SqlBuilder.Number
