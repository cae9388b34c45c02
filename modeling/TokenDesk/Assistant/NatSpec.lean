import TokenDesk.Text.Blank
import TokenDesk.Text.Utf8
import TokenDesk.Text.Word
import TokenDesk.Time.Date

/-!
# Documentation of contracts

Finds the contract declarations of a source text and renders the comment that goes before each. A
declaration is the word `contract`, a name, and then an opening brace, with blanks between them, or
with ` is ` and a list of bases before the brace.
-/

set_option autoImplicit false

namespace TokenDesk.Assistant

open TokenDesk.Text

/-- A contract declaration: its name and what it inherits from. -/
structure NatSpec where
  contract : String
  inheritance? : Option String
  deriving DecidableEq, Repr

namespace NatSpec

def securityContact : String := "security@example.com"

def author : String := "Web3 Copilot"

/-- The comment block of a declaration. -/
def render (spec : NatSpec) (date : Time.Date) : String :=
  let inheritance :=
    match spec.inheritance? with
    | some bases => " inheriting from " ++ bases
    | none => ""
  "/**\n * @title " ++ spec.contract ++
    "\n * @dev Implementation of the " ++ spec.contract ++ inheritance ++
    "\n * @custom:security-contact " ++ securityContact ++
    "\n * @author " ++ author ++
    "\n * @notice This contract is auto-generated and may need additional review" ++
    "\n * @custom:date " ++ date.text ++ "\n */\n"

/-- A run of blanks, at least one, and the text behind it. -/
def blanks? (cs : List Char) : Option (List Char) :=
  match cs with
  | [] => none
  | c :: _ => if isBlank c then some (cs.dropWhile isBlank) else none

/-- The bases between `is` and the next brace, and the text behind the brace. The stretch begins
with a blank and has at least two characters. -/
def bases? (cs : List Char) : Option (List Char × List Char) := do
  let cs ← blanks? cs
  let cs ← after? ['i', 's'] cs
  let (stretch, rest) ← splitFirst? '\x7b' cs
  match stretch with
  | first :: _ :: _ => if isBlank first then some (stretch, rest) else none
  | _ => none

/-- The declaration at the head of a text, and the text behind its brace. -/
def declaration? (cs : List Char) : Option (NatSpec × List Char) := do
  let cs ← after? "contract".toList cs
  let cs ← blanks? cs
  let name := cs.takeWhile isWord
  let cs := cs.dropWhile isWord
  if name.isEmpty then none
  else
    match bases? cs with
    | some (stretch, rest) =>
      let bases := trimChars stretch
      some (⟨String.ofList name, if bases.isEmpty then none else some (String.ofList bases)⟩, rest)
    | none =>
      (after? ['\x7b'] (cs.dropWhile isBlank)).map fun rest => (⟨String.ofList name, none⟩, rest)

/-- The declarations of a text with their byte offsets, counted from `offset`; the scan goes on
behind the brace of each. -/
def scan : Nat → Nat → List Char → List (Nat × NatSpec)
  | 0, _, _ => []
  | _ + 1, _, [] => []
  | fuel + 1, offset, c :: cs =>
    match declaration? (c :: cs) with
    | some (spec, rest) =>
      (offset, spec) :: scan fuel (offset + (byteLength (c :: cs) - byteLength rest)) rest
    | none => scan fuel (offset + c.utf8Size) cs

/-- The declarations of a text with their byte offsets. -/
def find (text : String) : List (Nat × NatSpec) :=
  scan (text.toList.length + 1) 0 text.toList

end NatSpec

end TokenDesk.Assistant
