import TokenDesk.Text.AlphanumericTable
import TokenDesk.Text.ExtenderTable
import TokenDesk.Text.WordTable

/-!
# Word characters

The classes that names are made of. ASCII is decided by rule and the rest by table.
-/

set_option autoImplicit false

namespace TokenDesk.Text

/-- Whether a number lies in one of the ascending ranges. -/
def inRanges (n : Nat) : List (Nat × Nat) → Bool
  | [] => false
  | (low, high) :: ranges => if n < low then false else n ≤ high || inRanges n ranges

/-- Whether a number lies in one of the ascending chunks of ranges. -/
def inTable (n : Nat) (table : List (List (Nat × Nat))) : Bool :=
  table.any (inRanges n)

/-- The ASCII letters. -/
def isAsciiLetter (c : Char) : Bool :=
  ('a' ≤ c && c ≤ 'z') || ('A' ≤ c && c ≤ 'Z')

/-- The ASCII letters and digits. -/
def isAsciiAlphanumeric (c : Char) : Bool :=
  isAsciiLetter c || ('0' ≤ c && c ≤ '9')

/-- Letters, marks, digits, connectors such as the underscore, and join controls. -/
def isWord (c : Char) : Bool :=
  if c.toNat < 128 then isAsciiAlphanumeric c || c == '_' else inTable c.toNat wordRanges

/-- Marks that extend the character before them. -/
def isExtender (c : Char) : Bool :=
  768 ≤ c.toNat && inTable c.toNat extenderRanges

/-- Letters and numbers of any kind. -/
def isAlphanumeric (c : Char) : Bool :=
  if c.toNat < 128 then isAsciiAlphanumeric c else inTable c.toNat alphanumericRanges

end TokenDesk.Text
