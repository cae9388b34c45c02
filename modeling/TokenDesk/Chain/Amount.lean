import TokenDesk.Run.Ending
import TokenDesk.Text.Blank
import TokenDesk.Text.Decimal
import TokenDesk.Text.Power

/-!
# Token amounts

Amounts are counted in base units, words of 256 bits. With `decimals` places, `10 ^ decimals` base
units are written as `1.0`. Both directions are exact: nothing is rounded, wrapped or cut. An amount has no
decimal form where the unit of its places does not fit a word, and reading aborts where the number of
places is beyond what a text is filled up to.
-/

set_option autoImplicit false

namespace TokenDesk

open TokenDesk.Text

/-- A number of base units. -/
structure Amount where
  units : Nat
  units_lt : units < twoTo 256
  deriving DecidableEq

namespace Amount

/-- The places of the chain's own coin. -/
def etherDecimals : Nat := 18

/-- The highest number of places that a fraction is filled up to. -/
def maxFilled : Nat := 65535

def ofNat? (n : Nat) : Option Amount :=
  if h : n < twoTo 256 then some ⟨n, h⟩ else none

/-- The number without its higher bits. -/
def ofNatLow (n : Nat) : Amount :=
  ⟨n % twoTo 256, Nat.mod_lt _ (twoTo_pos 256)⟩

/-- The base units as a numeral. -/
def text (a : Amount) : String :=
  decimal a.units

/-- The digits without the zeros at their end, but at least one digit. -/
def trimZeros (cs : List Char) : List Char :=
  match (cs.reverse.dropWhile (· == '0')).reverse with
  | [] => ['0']
  | kept => kept

/-- A unit with so many places more, taken one by one; none once it does not fit a word. -/
def unitFrom? (unit : Amount) : Nat → Option Amount
  | 0 => some unit
  | places + 1 => (ofNat? (unit.units * 10)).bind fun next => unitFrom? next places

/-- The base units that make up one with so many places; none where they do not fit a word. -/
def unit? (places : Nat) : Option Amount :=
  unitFrom? (.ofNatLow 1) places

/-- The decimal form; none where the unit of these places does not fit a word. -/
def format? (a : Amount) (decimals : Nat) : Option String :=
  (unit? decimals).map fun unit =>
    if decimals = 0 then String.ofList (digits (a.units / unit.units) ++ ['.', '0'])
    else
      let whole := a.units / unit.units
      let fraction := padded decimals (a.units % unit.units)
      String.ofList (digits whole ++ '.' :: trimZeros fraction)

/-- Why a text is no amount. -/
inductive Error where
  | empty (text : String)
  | notDecimal (text : String)
  | tooPrecise (text : String) (decimals : Nat)
  | outOfRange (text : String)
  deriving DecidableEq, Repr

def Error.message : Error → String
  | .empty text => "Amount `" ++ text ++ "` is empty"
  | .notDecimal text => "Amount `" ++ text ++ "` is not a non-negative decimal number"
  | .tooPrecise text decimals =>
    "Amount `" ++ text ++ "` has more than " ++ decimal decimals ++ " fractional digits"
  | .outOfRange text => "Amount `" ++ text ++ "` is out of range: InvalidLength"

/-- Reads digits on top of `n`; none once the number does not fit a word. -/
def readFrom? (n : Amount) : List Char → Option Amount
  | [] => some n
  | c :: cs => (ofNat? (n.units * 10 + digitValue c)).bind fun next => readFrom? next cs

/-- Reads a decimal numeral. -/
def ofDigits? (cs : List Char) : Option Amount :=
  readFrom? (.ofNatLow 0) cs

/-- The numeral of the base units: the digits before the point, at least one, and those behind it, filled up
with zeros. -/
def filled (whole fraction : List Char) (decimals : Nat) : List Char :=
  (if whole.isEmpty then ['0'] else whole) ++
    (fraction ++ List.replicate (decimals - fraction.length) '0')

/-- Reads a decimal number of at most `decimals` places; blanks around it are allowed. -/
def parse (input : String) (decimals : Nat) : Ending Error Amount :=
  let cs := trimChars input.toList
  let text := String.ofList cs
  let (whole, fraction) := (splitFirst? '.' cs).getD (cs, [])
  if whole.isEmpty && fraction.isEmpty then .failed (.empty text)
  else if !(whole ++ fraction).all isDigit then .failed (.notDecimal text)
  else if decimals < fraction.length then .failed (.tooPrecise text decimals)
  else if maxFilled < decimals then .aborted
  else .ofOption (.outOfRange text) (ofDigits? (filled whole fraction decimals))

end Amount

end TokenDesk
