import TokenDesk.Text.Blank
import TokenDesk.Text.Lines
import TokenDesk.Text.Word

/-!
# Security advice

Advice by keyword, and a chat that answers line by line until its input ends or asks to leave.
-/

set_option autoImplicit false

namespace TokenDesk.Assistant

open TokenDesk.Text

/-- A keyword and the advice that it brings. -/
structure Rule where
  keyword : String
  advice : String

/-- The rules; the first that applies wins. -/
def rules : List Rule := [
  ⟨"reentrancy", "Prevent reentrancy using Checks-Effects-Interactions or ReentrancyGuard."⟩,
  ⟨"overflow", "Solidity 0.8.x includes checked arithmetic. Use SafeMath for older versions."⟩,
  ⟨"gas", "Avoid unbounded loops and heavy storage writes to reduce gas."⟩,
  ⟨"front", "Mitigate front-running with commit-reveal schemes or batch auctions."⟩]

def genericAdvice : String :=
  "Always prioritize security and testing. Could you clarify your question?"

/-- The advice of the first rule whose keyword occurs in any letter case. No character beyond ASCII
has a letter of a keyword as its lowercase form, so ASCII case is enough. -/
def advise (question : String) : String :=
  let cs := question.toList.map Char.toLower
  match rules.find? fun rule => occursIn rule.keyword.toList cs with
  | some rule => rule.advice
  | none => genericAdvice

/-- The words that end a chat. -/
def exitWords : List String := ["exit", "quit"]

def prompt : String := "> "

/-- What a chat wrote, and whether it met a line that is no text. -/
structure Transcript where
  output : String
  failed : Bool
  deriving DecidableEq, Repr

/-- The answer to one line that does not end the chat. -/
def answer (question : String) : String :=
  if question = "" then prompt else advise question ++ "\n" ++ prompt

def chatLines : List Octets → Transcript
  | [] => ⟨"", false⟩
  | line :: lines =>
    match decode? line with
    | none => ⟨"", true⟩
    | some text =>
      let question := trim text
      if question ∈ exitWords then ⟨"", false⟩
      else
        let rest := chatLines lines
        ⟨answer question ++ rest.output, rest.failed⟩

/-- The chat over a whole input. -/
def chat (input : Octets) : Transcript :=
  let rest := chatLines (inputLines input)
  ⟨prompt ++ rest.output, rest.failed⟩

end TokenDesk.Assistant
