import TokenDesk.Text.Decimal
import TokenDesk.Text.Word

/-!
# Punycode

A label beyond ASCII written with letters, digits and hyphens (RFC 3492). The ASCII characters stand
first; the numbers behind the last hyphen tell which others are put between them, and where.
-/

set_option autoImplicit false

namespace TokenDesk.Text.Punycode

/-- The value of a digit: the letters before the numerals. -/
def value? (c : Char) : Option Nat :=
  if isAsciiLetter c then some (c.toLower.toNat - 'a'.toNat)
  else if isDigit c then some (digitValue c + 26)
  else none

/-- A digit below this is the last one of its number. -/
def threshold (place bias : Nat) : Nat :=
  if place ≤ bias then 1 else if bias + 26 ≤ place then 26 else place - bias

/-- Brings a distance into the range of two digits; gives the places that this takes with it. -/
def scaled (places delta : Nat) : Nat × Nat :=
  if delta ≤ 455 then (places, delta) else scaled (places + 36) (delta / 35)
  termination_by delta
  decreasing_by omega

/-- The bias for the number after one that led over `delta`, with so many characters placed. -/
def adapt (delta count : Nat) (isFirst : Bool) : Nat :=
  let delta := if isFirst then delta / 700 else delta / 2
  let (places, delta) := scaled 0 (delta + delta / count)
  places + 36 * delta / (delta + 38)

/-- Reads one number, lowest digit first, on top of `sum`; the rest is shorter. -/
def number? (bias place weight sum : Nat) :
    (cs : List Char) → Option (Nat × { rest : List Char // rest.length < cs.length })
  | [] => none
  | c :: cs =>
    match value? c with
    | none => none
    | some digit =>
      let sum := sum + digit * weight
      let last := threshold place bias
      if digit < last then some (sum, ⟨cs, by simp⟩)
      else
        match number? bias (place + 36) (weight * (36 - last)) sum cs with
        | none => none
        | some (sum, ⟨rest, h⟩) => some (sum, ⟨rest, by simp only [List.length_cons]; omega⟩)

/-- Puts the characters that the numbers tell of between those placed, on from a code point and an
index. -/
def place? (bias point index : Nat) (placed : List Char) (cs : List Char) : Option (List Char) :=
  if cs.isEmpty then some placed
  else
    match number? bias 36 1 index cs with
    | none => none
    | some (sum, ⟨rest, _⟩) =>
      let count := placed.length + 1
      let next := point + sum / count
      if next.isValidChar then
        place? (adapt (sum - index) count (index == 0)) next (sum % count + 1)
          (placed.insertIdx (sum % count) (Char.ofNat next)) rest
      else none
  termination_by cs.length

/-- The characters of a label. -/
def decode? (cs : List Char) : Option (List Char) :=
  let behind := (cs.reverse.takeWhile (· != '-')).reverse
  let before := cs.take (cs.length - behind.length)
  match before.dropLast with
  | [] => place? 72 128 0 [] cs
  | plain => place? 72 128 0 plain behind

end TokenDesk.Text.Punycode
