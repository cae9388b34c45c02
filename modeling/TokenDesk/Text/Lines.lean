import TokenDesk.Text.Utf8

/-!
# Lines of bytes

An input is cut at its line feeds before anything is decoded, so that one bad line spoils no other.
-/

set_option autoImplicit false

namespace TokenDesk.Text

/-- The bytes of each line without its line feed; a last line may lack one. -/
def byteLines : Octets → List Octets
  | [] => []
  | b :: bs =>
    if b = 10 then [] :: byteLines bs
    else
      match byteLines bs with
      | [] => [[b]]
      | line :: lines => (b :: line) :: lines

/-- The line without a carriage return at its end. -/
def dropReturn (line : Octets) : Octets :=
  if line.getLast? = some 13 then line.dropLast else line

/-- The lines of a byte sequence; a carriage return before a line feed belongs to the end. -/
def inputLines (bs : Octets) : List Octets :=
  let lines := byteLines bs
  if bs.getLast? = some 10 then lines.map dropReturn
  else lines.dropLast.map dropReturn ++ lines.getLast?.toList

end TokenDesk.Text
