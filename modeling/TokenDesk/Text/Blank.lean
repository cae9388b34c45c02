/-!
# Blank characters

The white space that trimming removes and that separates words, and the small cuts that the
readers of this library share. All cuts work on character lists, so that each has a short law.
-/

set_option autoImplicit false

namespace TokenDesk.Text

/-- The characters with the Unicode property White_Space. -/
def isBlank (c : Char) : Bool :=
  let n := c.toNat
  (9 ≤ n && n ≤ 13) || n == 32 || n == 0x85 || n == 0xA0 || n == 0x1680 ||
    (0x2000 ≤ n && n ≤ 0x200A) || n == 0x2028 || n == 0x2029 || n == 0x202F || n == 0x205F ||
    n == 0x3000

/-- The characters without the blanks at their end. -/
def trimEnd (cs : List Char) : List Char :=
  (cs.reverse.dropWhile isBlank).reverse

/-- The characters without the blanks at either end. -/
def trimChars (cs : List Char) : List Char :=
  trimEnd (cs.dropWhile isBlank)

/-- The text without the blanks at either end. -/
def trim (s : String) : String :=
  String.ofList (trimChars s.toList)

/-- What follows `mark` in a text that begins with it. -/
def after? (mark : List Char) (cs : List Char) : Option (List Char) :=
  match mark, cs with
  | [], cs => some cs
  | _ :: _, [] => none
  | m :: mark, c :: cs => if m = c then after? mark cs else none

/-- The text behind one leading `0x`, or the whole text where there is none. -/
def dropHexMark (cs : List Char) : List Char :=
  (after? ['0', 'x'] cs).getD cs

/-- The parts before and behind the first `mark`, or none where `mark` does not occur. -/
def splitFirst? (mark : Char) : List Char → Option (List Char × List Char)
  | [] => none
  | c :: cs =>
    if c = mark then some ([], cs)
    else (splitFirst? mark cs).map fun parts => (c :: parts.1, parts.2)

/-- The pieces between the marks; a text without a mark is one piece. -/
def splitAll (mark : Char) : List Char → List (List Char)
  | [] => [[]]
  | c :: cs =>
    if c = mark then [] :: splitAll mark cs
    else
      match splitAll mark cs with
      | [] => [[c]]
      | piece :: pieces => (c :: piece) :: pieces

/-- Whether `part` occurs in the text. -/
def occursIn (part : List Char) : List Char → Bool
  | [] => part.isEmpty
  | c :: cs => part.isPrefixOf (c :: cs) || occursIn part cs

theorem after?_append (mark rest : List Char) : after? mark (mark ++ rest) = some rest := by
  induction mark with
  | nil => simp [after?]
  | cons m mark ih => simp [after?, ih]

theorem eq_append_of_after? {mark cs rest : List Char} (h : after? mark cs = some rest) :
    cs = mark ++ rest := by
  induction mark generalizing cs with
  | nil => simpa [after?] using h
  | cons m mark ih =>
    cases cs with
    | nil => simp [after?] at h
    | cons c cs =>
      by_cases hm : m = c
      · subst hm
        simp only [after?, if_true] at h
        simp [ih h]
      · simp [after?, hm] at h

end TokenDesk.Text
