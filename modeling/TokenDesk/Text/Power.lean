/-!
# Powers

The units of decimal and of binary places.
-/

set_option autoImplicit false

namespace TokenDesk.Text

/-- The unit of so many decimal places. -/
def tenTo (places : Nat) : Nat :=
  Nat.pow 10 places

/-- How many numbers so many bits hold. -/
def twoTo (bits : Nat) : Nat :=
  Nat.pow 2 bits

theorem tenTo_pos (places : Nat) : 0 < tenTo places :=
  Nat.pow_pos (by decide)

theorem twoTo_pos (bits : Nat) : 0 < twoTo bits :=
  Nat.pow_pos (by decide)

end TokenDesk.Text
