import TokenDesk.Text.Decimal

/-!
# Name patterns

A pattern for the names of files: `?` stands for one character, `*` for any run of characters, and
brackets for one character of a set or, with `!`, for one outside it. Two stars stand for any depth of
directories, and only as a whole component of a path.
-/

set_option autoImplicit false

namespace TokenDesk.Pattern

open TokenDesk.Text

/-- The characters between two, both included. -/
structure Range where
  first : Char
  last : Char
  deriving DecidableEq, Repr

/-- A part of a pattern. -/
inductive Token where
  | char (c : Char)
  | anyChar
  | anyRun
  | anyDepth
  | within (ranges : List Range)
  | except (ranges : List Range)
  deriving DecidableEq, Repr

/-- What is wrong with a pattern. -/
inductive Cause where | tooManyStars | brokenDepth | badRange
  deriving DecidableEq, Repr

/-- Why a text is no pattern; positions count characters. -/
structure Error where
  position : Nat
  cause : Cause
  deriving DecidableEq, Repr

def Cause.message : Cause → String
  | .tooManyStars => "wildcards are either regular `*` or recursive `**`"
  | .brokenDepth => "recursive wildcards must form a single path component"
  | .badRange => "invalid range pattern"

def Error.message (e : Error) : String :=
  "Pattern syntax error near position " ++ decimal e.position ++ ": " ++ e.cause.message

/-- The ranges between brackets: `a-z` is one, any other character stands for itself. -/
def ranges : List Char → List Range
  | first :: '-' :: last :: cs => ⟨first, last⟩ :: ranges cs
  | c :: cs => ⟨c, c⟩ :: ranges cs
  | [] => []

/-- The text between brackets, which is never empty, and the text behind them. -/
def bracketed? : List Char → Option (List Char × List Char)
  | [] => none
  | c :: cs =>
    match cs.dropWhile (· != ']') with
    | [] => none
    | _ :: rest => some (c :: cs.takeWhile (· != ']'), rest)

/-- Reads the parts of a pattern from a position; `start` tells whether a component begins there. -/
def tokensFrom : Nat → Nat → Bool → List Char → Except Error (List Token)
  | 0, _, _, _ => .ok []
  | _ + 1, _, _, [] => .ok []
  | fuel + 1, position, start, c :: cs =>
    let more (token : Token) (taken : Nat) (start : Bool) (rest : List Char) :
        Except Error (List Token) :=
      (tokensFrom fuel (position + taken) start rest).map (token :: ·)
    if c = '?' then more .anyChar 1 false cs
    else if c = '*' then
      match cs with
      | '*' :: '*' :: _ => .error ⟨position + 2, .tooManyStars⟩
      | '*' :: rest =>
        if !start then .error ⟨position - 1, .brokenDepth⟩
        else
          match rest with
          | [] => more .anyDepth 2 false []
          | '/' :: rest => more .anyDepth 3 true rest
          | _ => .error ⟨position + 2, .brokenDepth⟩
      | cs => more .anyRun 1 false cs
    else if c = '[' then
      match cs with
      | '!' :: cs =>
        match bracketed? cs with
        | some (set, rest) => more (.except (ranges set)) (set.length + 3) false rest
        | none => .error ⟨position, .badRange⟩
      | cs =>
        match bracketed? cs with
        | some (set, rest) => more (.within (ranges set)) (set.length + 2) false rest
        | none => .error ⟨position, .badRange⟩
    else more (.char c) 1 (c == '/') cs

/-- The parts of a pattern. -/
def tokens (text : String) : Except Error (List Token) :=
  tokensFrom (text.length + 1) 0 true text.toList

def Range.holds (r : Range) (c : Char) : Bool :=
  r.first ≤ c && c ≤ r.last

/-- Whether some end of the text passes. -/
def someEnd (passes : List Char → Bool) : List Char → Bool
  | [] => passes []
  | c :: cs => passes (c :: cs) || someEnd passes cs

/-- Whether a part that stands for one character stands for this one. -/
def Token.admits (token : Token) (c : Char) : Bool :=
  match token with
  | .char d => c == d
  | .anyChar => true
  | .within ranges => ranges.any (·.holds c)
  | .except ranges => !ranges.any (·.holds c)
  | .anyRun | .anyDepth => false

/-- Whether a pattern stands for a name. -/
def accepts : List Token → List Char → Bool
  | [], cs => cs.isEmpty
  | .anyRun :: tokens, cs => someEnd (accepts tokens) cs
  | .anyDepth :: tokens, cs => someEnd (accepts tokens) cs
  | token :: tokens, cs =>
    match cs with
    | [] => false
    | c :: cs => token.admits c && accepts tokens cs

/-- The text of a pattern that stands for itself alone. -/
def literal? : List Token → Option (List Char)
  | [] => some []
  | .char c :: tokens => (literal? tokens).map (c :: ·)
  | _ :: _ => none

end TokenDesk.Pattern
