import TokenDesk.Text.Decimal
import TokenDesk.Text.Power

/-!
# Doubles

Floating-point numbers of 64 bits as plain data: rounding a fraction to the nearest double, products
and quotients, and the shortest decimal that reads back. All of it is exact arithmetic on natural
numbers.
-/

set_option autoImplicit false

namespace TokenDesk.Json

open TokenDesk.Text

/-- A finite double or an infinity: its sign and the remaining 63 bits. -/
structure Double where
  negative : Bool
  magnitude : Nat
  deriving DecidableEq, Repr

namespace Double

/-- The 63 bits of infinity. -/
def infinity : Nat := 0x7FF * twoTo 52

def isInfinite (d : Double) : Bool :=
  infinity ≤ d.magnitude

/-- The value is `mantissa * 2 ^ (exponent - 1074)`. -/
def mantissa (d : Double) : Nat :=
  if d.magnitude < twoTo 52 then d.magnitude else d.magnitude % twoTo 52 + twoTo 52

def exponent (d : Double) : Nat :=
  d.magnitude / twoTo 52 - 1

/-- The quotient rounded to the nearest whole number, a half to the even neighbour. -/
def roundQuotient (num den : Nat) : Nat :=
  let q := num / den
  let r := num % den
  if 2 * r < den then q
  else if den < 2 * r then q + 1
  else if q % 2 = 0 then q else q + 1

/-- The 63 bits nearest to `num / den * 2 ^ -1074`. -/
def roundScaled (num den : Nat) : Nat :=
  let guess := num.log2 - den.log2 - 52
  let shift := if num < den * twoTo (guess + 52) then guess - 1 else guess
  let q := roundQuotient num (den * twoTo shift)
  min infinity (shift * twoTo 52 + q)

/-- The double nearest to `num / den`. -/
def ofRatio (negative : Bool) (num den : Nat) : Double :=
  ⟨negative, roundScaled (num * twoTo 1074) den⟩

def ofNat (n : Nat) : Double :=
  ofRatio false n 1

/-- The double nearest to the product of a double and a power of ten, the power rounded first. -/
def timesPower (d : Double) (places : Nat) : Double :=
  let p := ofNat (tenTo places)
  ⟨d.negative, roundScaled (d.mantissa * p.mantissa * twoTo (d.exponent + p.exponent)) (twoTo 1074)⟩

/-- The double nearest to the quotient of a double and a power of ten, the power rounded first. -/
def overPower (d : Double) (places : Nat) : Double :=
  let p := ofNat (tenTo places)
  ⟨d.negative, roundScaled (d.mantissa * twoTo d.exponent * twoTo 1074) (p.mantissa * twoTo p.exponent)⟩

/-- A positive decimal: digits without a zero at either end, and the exponent of the first. -/
structure Shortest where
  digits : List Char
  exponent : Int
  deriving DecidableEq, Repr

/-- The exponent of the first digit of the positive fraction `num / den`. -/
def leadingExponent (num den : Nat) : Int :=
  if den ≤ num then ((digits (num / den)).length : Int) - 1
  else -((digits ((den + num - 1) / num - 1)).length : Int)

/-- Drops zeros at the end. -/
def dropZeros (cs : List Char) : List Char :=
  (cs.reverse.dropWhile (· == '0')).reverse

/-- Whether `c / scale` reads back as the double whose value is `4 * mantissa / unit`. -/
def readsBack (d : Double) (c scale unit : Nat) : Bool :=
  let m := d.mantissa
  let below := if m = twoTo 52 && 1 < d.magnitude / twoTo 52 then 4 * m - 1 else 4 * m - 2
  let above := 4 * m + 2
  if m % 2 = 0 then below * unit ≤ c * scale && c * scale ≤ above * unit
  else below * unit < c * scale && c * scale < above * unit

/-- Tries ever finer decimal grids, from `count` digits on, until a neighbour reads back. -/
def search (d : Double) (first : Int) (count : Nat) : Nat → Nat × Int
  | 0 => (0, first)
  | fuel + 1 =>
    let k : Int := first - (count : Int) + 1
    let up := tenTo k.toNat
    let down := tenTo (-k).toNat
    -- a quarter of the last place is `2 ^ (exponent - 1076)`
    let scale := up * twoTo 1076
    let unit := twoTo d.exponent * down
    let low := 4 * d.mantissa * unit / scale
    let high := low + 1
    let lowHit := readsBack d low scale unit
    let highHit := readsBack d high scale unit
    let target := 4 * d.mantissa * unit
    if lowHit && highHit then
      if 2 * target < (low + high) * scale || (2 * target = (low + high) * scale && low % 2 = 0)
      then (low, k) else (high, k)
    else if lowHit then (low, k)
    else if highHit then (high, k)
    else search d first (count + 1) fuel

/-- The fewest digits that read back as a positive double, and of those the nearest. -/
def shortest (d : Double) : Shortest :=
  let num := d.mantissa * twoTo d.exponent
  let first := leadingExponent num (twoTo 1074)
  let (c, k) := search d first 1 17
  let ds := digits c
  ⟨dropZeros ds, k + (ds.length : Int) - 1⟩

/-- Plain from `1e-5` to below `1e16`, with a fraction of at least one digit; else with an exponent. -/
def shortestChars (s : Shortest) : List Char :=
  if 0 ≤ s.exponent && s.exponent < 16 then
    let whole := s.exponent.toNat + 1
    if s.digits.length ≤ whole then
      s.digits ++ List.replicate (whole - s.digits.length) '0' ++ ['.', '0']
    else s.digits.take whole ++ '.' :: s.digits.drop whole
  else if -5 ≤ s.exponent && s.exponent < 0 then
    '0' :: '.' :: List.replicate (s.exponent.natAbs - 1) '0' ++ s.digits
  else
    let sign := if s.exponent < 0 then '-' else '+'
    let fraction := if s.digits.length ≤ 1 then [] else '.' :: s.digits.drop 1
    s.digits.take 1 ++ fraction ++ 'e' :: sign :: digits s.exponent.natAbs

def chars (d : Double) : List Char :=
  let unsigned := if d.magnitude = 0 then ['0', '.', '0'] else shortestChars d.shortest
  if d.negative then '-' :: unsigned else unsigned

end Double

end TokenDesk.Json
