import TokenDesk.Text.Blank
import TokenDesk.Text.Composition
import TokenDesk.Text.DirectionTable
import TokenDesk.Text.FoldingTable
import TokenDesk.Text.HiddenTable
import TokenDesk.Text.JoiningTable
import TokenDesk.Text.Punycode
import TokenDesk.Text.SpacingTable

/-!
# Domain names

A domain name is folded before it is looked at: letter case and compatibility variants vanish. Its
labels may hold letters of any script, written out or in Punycode, as long as they can be told apart:
no mark without a letter, no joiner without letters to join, and one writing direction in a label.
-/

set_option autoImplicit false

namespace TokenDesk.Domain

open TokenDesk.Text

/-! ## Folding -/

/-- The ASCII characters that no domain name holds: controls, the blank and marks of a URL. -/
def isForbidden (c : Char) : Bool :=
  c.toNat ≤ 32 || c.toNat == 127 || "%#/:<>?@[\\]^|".toList.contains c

/-- The characters that vanish from a domain name: soft hyphens, fillers, variation selectors and
other signs that nobody sees. -/
def ignoredRanges : List (Nat × Nat) := [
  (173, 173), (847, 847), (4447, 4448), (6068, 6069), (6155, 6159), (8203, 8203), (8288, 8292),
  (8298, 8303), (12644, 12644), (65024, 65039), (65279, 65279), (65440, 65440), (113824, 113827),
  (119155, 119162), (917760, 917999)]

/-- The characters with a glyph that cannot stand in a domain name: accents by themselves and others
whose folding holds a blank or a mark of a URL, full stops behind a number, and descriptions of
characters. -/
def barredRanges : List (Nat × Nat) := [
  (168, 168), (175, 175), (180, 180), (184, 184), (728, 733), (890, 890), (900, 901),
  (8125, 8125), (8127, 8129), (8141, 8143), (8157, 8159), (8173, 8174), (8189, 8190),
  (8215, 8215), (8228, 8230), (8254, 8254), (8263, 8265), (8448, 8449), (8453, 8454),
  (9352, 9371), (10868, 10868), (12272, 12287), (12443, 12444), (12783, 12783), (13250, 13250),
  (13255, 13255), (13272, 13272), (64606, 64611), (65018, 65019), (65042, 65042),
  (65049, 65049), (65072, 65072), (65097, 65100), (65106, 65106), (65136, 65136),
  (65138, 65138), (65140, 65142), (65144, 65144), (65146, 65146), (65148, 65148),
  (65150, 65150), (65507, 65507), (65532, 65533), (127232, 127232)]

/-- The two joiners: one keeps letters apart that would join, the other joins them. -/
def isJoiner (c : Char) : Bool :=
  c == '\u200C' || c == '\u200D'

/-- The ASCII characters that a character beyond ASCII folds to. -/
def foldedAscii? (n : Nat) : Option (List Char) :=
  match foldedRuns.findSome? (·.find? fun row => row.1 ≤ n && n ≤ row.2.1) with
  | some (first, _, c) => some [Char.ofNat (c.toNat + (n - first))]
  | none => (foldedTexts.findSome? (·.lookup n)).map String.toList

/-- Whether a character folds to others beyond ASCII. -/
def isAltered (n : Nat) : Bool :=
  alteredRuns.any (·.any fun row => row.1 ≤ n && n ≤ row.2.1 && (n - row.1) % row.2.2 == 0)

/-- What a character becomes in a domain name; none where it cannot stand in one. A character that
folds to others beyond ASCII stands for them, except for the one mark that folds to a letter. -/
def fold? (c : Char) : Option (List Char) :=
  let n := c.toNat
  if n < 128 then some [c.toLower]
  else if c == '\u0345' then some ['\u03B9']
  else if inRanges n ignoredRanges then some []
  else
    match foldedAscii? n with
    | some cs => some cs
    | none =>
      if isJoiner c then some [c]
      else if inTable n hiddenRanges || inRanges n barredRanges then none
      else some [c]

/-- With a stroke over them the two angle brackets are characters of their own. -/
def overstruck : List Char → List Char
  | '<' :: '\u0338' :: cs => '\u226E' :: overstruck cs
  | '>' :: '\u0338' :: cs => '\u226F' :: overstruck cs
  | c :: cs => c :: overstruck cs
  | [] => []

/-- A name folded, if all its characters can stand in one. -/
def folded? (cs : List Char) : Option (List Char) :=
  match cs.mapM fold? with
  | none => none
  | some pieces =>
    let cs := overstruck pieces.flatten
    if cs.any isForbidden then none else some cs

/-! ## Marks and joiners -/

def isSpacing (c : Char) : Bool :=
  768 ≤ c.toNat && inTable c.toNat spacingRanges

/-- Marks that stand on the character before them. -/
def isAttached (c : Char) : Bool :=
  isExtender c && !isSpacing c && !isJoiner c

def isMark (c : Char) : Bool :=
  isAttached c || isSpacing c

/-- Whether the nearest character, marks on it passed over, is in one of the ranges. -/
def nearestIn (ranges : List (Nat × Nat)) (cs : List Char) : Bool :=
  ((cs.dropWhile isAttached).head?.any fun c => inRanges c.toNat ranges)

/-- Whether a joiner may stand between these characters, the nearest first: behind a sign that joins
consonants, or, if it keeps letters apart, where they would join. -/
def mayJoin (joiner : Char) (before after : List Char) : Bool :=
  match before with
  | [] => false
  | c :: _ =>
    isVirama c || (joiner == '\u200C' && nearestIn joinsNextRanges before &&
      nearestIn joinsPreviousRanges after)

/-- Whether each joiner may stand where it does; `before` is what has been passed, nearest first. -/
def hasFitJoiners (before : List Char) : List Char → Bool
  | [] => true
  | c :: cs => (!isJoiner c || mayJoin c before cs) && hasFitJoiners (c :: before) cs

/-! ## Writing direction -/

/-- How a character is written. -/
inductive Direction where
  | leftToRight | rightToLeft | digit | arabicDigit | neutral
  /-- As the character before it. -/
  | attached
  deriving DecidableEq, Repr

def direction (c : Char) : Direction :=
  let n := c.toNat
  if n < 128 then
    if isAsciiLetter c then .leftToRight else if isDigit c then .digit else .neutral
  else if isAttached c then .attached
  else if inRanges n rightToLeftRanges then .rightToLeft
  else if inRanges n arabicDigitRanges then .arabicDigit
  else if inRanges n plainDigitRanges then .digit
  else if inRanges n neutralRanges then .neutral
  else .leftToRight

/-- Whether a name has letters or digits that are written from right to left. -/
def isTwoWay (label : List Char) : Bool :=
  label.any fun c => [Direction.rightToLeft, .arabicDigit].contains (direction c)

/-- Whether a label goes one way: it begins with a letter, no letter of the other direction follows,
it ends with a letter or digit, and it does not mix the two kinds of digits (RFC 5893). -/
def goesOneWay (label : List Char) : Bool :=
  let ways := label.map direction
  let ending := (ways.reverse.dropWhile (· == .attached)).head?.getD .neutral
  match ways.head? with
  | none => true
  | some .leftToRight =>
    ways.all [.leftToRight, .digit, .neutral, .attached].contains &&
      [.leftToRight, .digit].contains ending
  | some .rightToLeft =>
    ways.all (· != .leftToRight) && [.rightToLeft, .digit, .arabicDigit].contains ending &&
      !(ways.contains .digit && ways.contains .arabicDigit)
  | some _ => false

/-! ## Names -/

/-- How many characters a label beyond ASCII may have, and how many its Punycode. -/
def labelLimit : Nat := 1000

/-- Whether a label, Punycode read, can stand in a name. -/
def isLabel (label : List Char) : Bool :=
  !label.head?.any isMark && hasFitJoiners [] label &&
    (label.all (·.toNat < 128) || label.length ≤ labelLimit)

/-- Whether a character stands for itself. -/
def isFolded (c : Char) : Bool :=
  fold? c == some [c] && !isAltered c.toNat

/-- A label in Punycode: it has to hold a character beyond ASCII, and to be folded and composed. -/
def decoded? (code : List Char) : Option (List Char) :=
  if code.getLast?.getD '-' = '-' || 2 * labelLimit < code.length then none
  else
    match Punycode.decode? code with
    | some label => if label.all isFolded && isComposed label then some label else none
    | none => none

/-- The characters of a folded label. -/
def label? (label : List Char) : Option (List Char) :=
  match after? "xn--".toList label with
  | some code => (decoded? code).filter isLabel
  | none => if isLabel label then some label else none

/-- A domain name, folded. -/
def parse? (cs : List Char) : Option (List Char) :=
  match folded? cs with
  | none => none
  | some name =>
    match (splitAll '.' name).mapM label? with
    | none => none
    | some labels =>
      if labels.any isTwoWay && !labels.all goesOneWay then none else some name

end TokenDesk.Domain
