import TokenDesk.Text.ComposingTable

/-!
# Composed text

A text is composed when no two of its characters can be written as one and the marks on a letter stand
in the order of their classes.
-/

set_option autoImplicit false

namespace TokenDesk.Text

/-- The class of a mark; zero for all other characters. -/
def markClass (c : Char) : Nat :=
  let n := c.toNat
  match markRuns.findSome? (·.find? fun row => row.1 ≤ n && n ≤ row.2.1) with
  | some (_, _, k) => k
  | none => 0

/-- Whether a mark joins a consonant with the next one. -/
def isVirama (c : Char) : Bool :=
  markClass c == 9

/-- Whether two parts of a Korean syllable make one: a consonant and a vowel, or a syllable that ends
in a vowel and a consonant. -/
def makesSyllable (a b : Nat) : Bool :=
  (0x1100 ≤ a && a ≤ 0x1112 && 0x1161 ≤ b && b ≤ 0x1175) ||
    (0xAC00 ≤ a && a ≤ 0xD7A3 && (a - 0xAC00) % 28 == 0 && 0x11A8 ≤ b && b ≤ 0x11C2)

/-- Whether two characters can be written as one. -/
def makesOne (a b : Char) : Bool :=
  makesSyllable a.toNat b.toNat ||
    (composingRows.lookup b.toNat).any (·.contains a.toNat)

/-- Whether the rest of a text is composed, behind a letter and a mark on it of a class. A character
meets the letter if only marks of lower classes stand between them. -/
def isComposedFrom (letter? : Option Char) (class? : Option Nat) : List Char → Bool
  | [] => true
  | c :: cs =>
    let k := markClass c
    let meets := class?.all (· < k)
    let isOrdered := k == 0 || class?.all (· ≤ k)
    let isOne := meets && letter?.any (makesOne · c)
    isOrdered && !isOne &&
      if k == 0 then isComposedFrom (some c) none cs else isComposedFrom letter? (some k) cs

def isComposed (cs : List Char) : Bool :=
  isComposedFrom none none cs

end TokenDesk.Text
