/-!
# Decimal numerals

Digits of natural numbers and the two readers of numerals: `natural?` for a plain run of digits,
`word64` for a 64-bit word with its three ways to fail.
-/

set_option autoImplicit false

namespace TokenDesk.Text

/-- The digits `0` to `9` alone. -/
def isDigit (c : Char) : Bool :=
  '0' ≤ c && c ≤ '9'

/-- The value of a digit. -/
def digitValue (c : Char) : Nat :=
  c.toNat - '0'.toNat

/-- The number that a run of digits denotes. -/
def natOfDigits (cs : List Char) : Nat :=
  cs.foldl (fun n c => n * 10 + digitValue c) 0

/-- The decimal digits of a number, without superfluous zeros. -/
def digits (n : Nat) : List Char :=
  Nat.toDigits 10 n

/-- The decimal text of a number. -/
def decimal (n : Nat) : String :=
  String.ofList (digits n)

/-- The decimal text of a signed number. -/
def signed : Int → String
  | .ofNat n => decimal n
  | .negSucc n => "-" ++ decimal (n + 1)

/-- The digits of a number, with zeros in front up to `width`. -/
def padded (width : Nat) (n : Nat) : List Char :=
  List.replicate (width - (digits n).length) '0' ++ digits n

/-- The number of a non-empty run of digits. -/
def natural? (cs : List Char) : Option Nat :=
  if cs.isEmpty || !cs.all isDigit then none else some (natOfDigits cs)

/-- Why a text is no 64-bit word. -/
inductive NumeralError where | empty | invalidDigit | tooLarge
  deriving DecidableEq, Repr

def NumeralError.message : NumeralError → String
  | .empty => "cannot parse integer from empty string"
  | .invalidDigit => "invalid digit found in string"
  | .tooLarge => "number too large to fit in target type"

/-- Reads digits on top of `n`; the first digit that leaves the range ends the reading. -/
def word64Digits (n : Nat) : List Char → Except NumeralError UInt64
  | [] => .ok (UInt64.ofNat n)
  | c :: cs =>
    if !isDigit c then .error .invalidDigit
    else if UInt64.size ≤ n * 10 + digitValue c then .error .tooLarge
    else word64Digits (n * 10 + digitValue c) cs

/-- Reads a 64-bit word: digits, with one plus sign allowed in front. -/
def word64 (s : String) : Except NumeralError UInt64 :=
  match s.toList with
  | [] => .error .empty
  | ['+'] => .error .invalidDigit
  | '+' :: cs => word64Digits 0 cs
  | cs => word64Digits 0 cs

end TokenDesk.Text
