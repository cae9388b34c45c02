import TokenDesk.Text.Decimal
import TokenDesk.Text.Hex

/-!
# JSON documents

A JSON text as it is met from left to right, before a type is asked of it. Reading never fails: where
the text stops being JSON, the document ends in a `broken` value or in a list that is not closed, and
nothing follows. So whoever asks a type of a document finds its faults in the order of the text.
-/

set_option autoImplicit false

namespace TokenDesk.Json

open TokenDesk.Text

/-- A number as written. -/
structure Numeral where
  negative : Bool
  whole : List Char
  /-- The digits behind the point, where there is one. -/
  fraction? : Option (List Char)
  /-- The sign (true for minus) and the digits of the exponent, where there is one. -/
  exponent? : Option (Bool × List Char)
  deriving DecidableEq, Repr

/-- A value as written. A string is absent where it escapes half a character. -/
inductive Document where
  | null
  | bool (value : Bool)
  | number (numeral : Numeral)
  | string (value? : Option String)
  | array (items : List Document) (closed : Bool)
  | object (entries : List (Option String × Document)) (closed : Bool)
  | broken

/-- The white space between tokens. -/
def isGap (c : Char) : Bool :=
  c == ' ' || c == '\n' || c == '\t' || c == '\r'

def skipGap (cs : List Char) : List Char :=
  cs.dropWhile isGap

/-- The number of four hexadecimal digits. -/
def hex4? : List Char → Option (Nat × List Char)
  | a :: b :: c :: d :: cs => (Hex.natural? 16 [a, b, c, d]).map (·, cs)
  | _ => none

def isHigh (n : Nat) : Bool := 0xD800 ≤ n && n < 0xDC00

def isLow (n : Nat) : Bool := 0xDC00 ≤ n && n < 0xE000

/-- The character of an escape with one letter. -/
def shortEscape? : Char → Option Char
  | '"' => some '"'
  | '\\' => some '\\'
  | '/' => some '/'
  | 'b' => some '\x08'
  | 'f' => some '\x0c'
  | 'n' => some '\n'
  | 'r' => some '\r'
  | 't' => some '\t'
  | _ => none

/-- Reads one escape behind its backslash: the character, absent for half a character. -/
def escape? : List Char → Option (Option Char × List Char)
  | 'u' :: cs =>
    match hex4? cs with
    | none => none
    | some (n, cs) =>
      if isHigh n then
        match cs with
        | '\\' :: 'u' :: more =>
          match hex4? more with
          | none => none
          | some (m, rest) =>
            if isLow m then
              some (some (Char.ofNat (0x10000 + (n - 0xD800) * 0x400 + (m - 0xDC00))), rest)
            else some (none, cs)
        | _ => some (none, cs)
      else if isLow n then some (none, cs)
      else some (some (Char.ofNat n), cs)
  | c :: cs => (shortEscape? c).map fun e => (some e, cs)
  | [] => none

/-- Reads a string behind its opening quote; none where it is not closed or not JSON. -/
def string? : Nat → List Char → Option (Option (List Char) × List Char)
  | 0, _ => none
  | _ + 1, [] => none
  | fuel + 1, c :: cs =>
    if c = '"' then some (some [], cs)
    else if c = '\\' then
      match escape? cs with
      | none => none
      | some (char?, cs) =>
        (string? fuel cs).map fun (rest?, cs) =>
          (char?.bind fun e => rest?.map (e :: ·), cs)
    else if c.toNat < 32 then none
    else (string? fuel cs).map fun (rest?, cs) => (rest?.map (c :: ·), cs)

/-- A run of digits and what follows it. -/
def digitRun (cs : List Char) : List Char × List Char :=
  (cs.takeWhile isDigit, cs.dropWhile isDigit)

/-- Reads the fraction of a number, where there is one. -/
def fraction? : List Char → Option (Option (List Char) × List Char)
  | '.' :: cs =>
    let (run, cs) := digitRun cs
    if run.isEmpty then none else some (some run, cs)
  | cs => some (none, cs)

def exponentDigits? (negative : Bool) (cs : List Char) :
    Option (Option (Bool × List Char) × List Char) :=
  let (run, cs) := digitRun cs
  if run.isEmpty then none else some (some (negative, run), cs)

/-- Reads the exponent of a number, where there is one. -/
def exponent? : List Char → Option (Option (Bool × List Char) × List Char)
  | c :: cs =>
    if c = 'e' || c = 'E' then
      match cs with
      | '+' :: cs => exponentDigits? false cs
      | '-' :: cs => exponentDigits? true cs
      | cs => exponentDigits? false cs
    else some (none, c :: cs)
  | [] => some (none, [])

/-- Reads a number behind its sign; a leading zero stands alone. -/
def numeral? (negative : Bool) (cs : List Char) : Option (Numeral × List Char) :=
  let (lead, cs) := digitRun cs
  if lead.isEmpty || (1 < lead.length && lead.head? == some '0') then none
  else
    match fraction? cs with
    | none => none
    | some (fraction, cs) =>
      match exponent? cs with
      | none => none
      | some (exponent, cs) => some (⟨negative, lead, fraction, exponent⟩, cs)

/-- A value and the text behind it; no text where the value ends in a fault. -/
abbrev Met := Document × Option (List Char)

/-- A value spelled by a word. -/
def literal (word : String) (value : Document) (cs : List Char) : Met :=
  match word.toList.isPrefixOf cs with
  | true => (value, some (cs.drop word.length))
  | false => (.broken, none)

def numberAt (negative : Bool) (cs : List Char) : Met :=
  match numeral? negative cs with
  | some (n, cs) => (.number n, some cs)
  | none => (.broken, none)

mutual

/-- Reads the value at the head of the text. -/
def value : Nat → List Char → Met
  | 0, _ => (.broken, none)
  | fuel + 1, cs =>
    match skipGap cs with
    | [] => (.broken, none)
    | '"' :: cs =>
      match string? (cs.length + 1) cs with
      | some (s?, cs) => (.string (s?.map String.ofList), some cs)
      | none => (.broken, none)
    | '[' :: cs =>
      match skipGap cs with
      | ']' :: cs => (.array [] true, some cs)
      | cs =>
        let (items, rest) := items fuel cs
        (.array items rest.isSome, rest)
    | '\x7b' :: cs =>
      match skipGap cs with
      | '\x7d' :: cs => (.object [] true, some cs)
      | cs =>
        let (entries, rest) := entries fuel cs
        (.object entries rest.isSome, rest)
    | 'n' :: cs => literal "null" .null ('n' :: cs)
    | 't' :: cs => literal "true" (.bool true) ('t' :: cs)
    | 'f' :: cs => literal "false" (.bool false) ('f' :: cs)
    | '-' :: cs => numberAt true cs
    | c :: cs => numberAt false (c :: cs)

/-- Reads values separated by commas up to a closing bracket. -/
def items : Nat → List Char → List Document × Option (List Char)
  | 0, _ => ([], none)
  | fuel + 1, cs =>
    match value fuel cs with
    | (item, none) => ([item], none)
    | (item, some cs) =>
      match skipGap cs with
      | ',' :: cs =>
        let (rest, more) := items fuel cs
        (item :: rest, more)
      | ']' :: cs => ([item], some cs)
      | _ => ([item], none)

/-- Reads keys and values separated by commas up to a closing brace. -/
def entries : Nat → List Char → List (Option String × Document) × Option (List Char)
  | 0, _ => ([], none)
  | fuel + 1, cs =>
    match skipGap cs with
    | '"' :: cs =>
      match string? (cs.length + 1) cs with
      | none => ([], none)
      | some (key?, cs) =>
        let key? := key?.map String.ofList
        match skipGap cs with
        | ':' :: cs =>
          match value fuel cs with
          | (v, none) => ([(key?, v)], none)
          | (v, some cs) =>
            match skipGap cs with
            | ',' :: cs =>
              let (rest, more) := entries fuel cs
              ((key?, v) :: rest, more)
            | '\x7d' :: cs => ([(key?, v)], some cs)
            | _ => ([(key?, v)], none)
        | _ => ([(key?, .broken)], none)
    | _ => ([], none)

end

/-- The document at the head of a text, and whether nothing but gaps follows it. -/
def Document.ofChars (cs : List Char) : Document × Bool :=
  let (document, rest) := value (2 * cs.length + 2) cs
  (document, (rest.map fun cs => (skipGap cs).isEmpty).getD false)

end TokenDesk.Json
