import TokenDesk.Json.Basic

/-!
# Printing JSON

The compact form, and the form of files with two spaces for each level. Strings escape quotes,
backslashes and the characters below U+0020, and nothing else.
-/

set_option autoImplicit false

namespace TokenDesk.Json

open TokenDesk.Text

/-- The lowercase hexadecimal digit of a number below 16. -/
def hexDigit (n : Nat) : Char :=
  if n < 10 then Char.ofNat (48 + n) else Char.ofNat (87 + n)

/-- The written form of one character of a string. -/
def escape (c : Char) : List Char :=
  if c = '"' then ['\\', '"']
  else if c = '\\' then ['\\', '\\']
  else if c = '\n' then ['\\', 'n']
  else if c = '\r' then ['\\', 'r']
  else if c = '\t' then ['\\', 't']
  else if c = '\x08' then ['\\', 'b']
  else if c = '\x0c' then ['\\', 'f']
  else if c.toNat < 32 then
    ['\\', 'u', '0', '0', hexDigit (c.toNat / 16), hexDigit (c.toNat % 16)]
  else [c]

/-- A string in quotes. -/
def stringChars (s : String) : List Char :=
  '"' :: s.toList.flatMap escape ++ ['"']

def wholeChars : Int → List Char
  | .ofNat n => digits n
  | .negSucc n => '-' :: digits (n + 1)

mutual

/-- The form without any white space. -/
def compactChars : Json → List Char
  | .null => ['n', 'u', 'l', 'l']
  | .bool true => ['t', 'r', 'u', 'e']
  | .bool false => ['f', 'a', 'l', 's', 'e']
  | .whole n => wholeChars n
  | .double d => d.chars
  | .string s => stringChars s
  | .array items => '[' :: compactItems items ++ [']']
  | .object entries => '\x7b' :: compactEntries entries ++ ['\x7d']

def compactItems : List Json → List Char
  | [] => []
  | [item] => compactChars item
  | item :: items => compactChars item ++ ',' :: compactItems items

def compactEntries : List (String × Json) → List Char
  | [] => []
  | [(key, value)] => stringChars key ++ ':' :: compactChars value
  | (key, value) :: entries =>
    stringChars key ++ ':' :: compactChars value ++ ',' :: compactEntries entries

end

def compact (value : Json) : String :=
  String.ofList (compactChars value)

/-- A new line at a level. -/
def lineBreak (level : Nat) : List Char :=
  '\n' :: List.replicate (2 * level) ' '

mutual

/-- The form of files, for a value that stands at a level. -/
def prettyChars (level : Nat) : Json → List Char
  | .array [] => ['[', ']']
  | .array (item :: items) =>
    '[' :: prettyItems (level + 1) (item :: items) ++ lineBreak level ++ [']']
  | .object [] => ['\x7b', '\x7d']
  | .object (entry :: entries) =>
    '\x7b' :: prettyEntries (level + 1) (entry :: entries) ++ lineBreak level ++ ['\x7d']
  | .null => ['n', 'u', 'l', 'l']
  | .bool true => ['t', 'r', 'u', 'e']
  | .bool false => ['f', 'a', 'l', 's', 'e']
  | .whole n => wholeChars n
  | .double d => d.chars
  | .string s => stringChars s

def prettyItems (level : Nat) : List Json → List Char
  | [] => []
  | [item] => lineBreak level ++ prettyChars level item
  | item :: items => lineBreak level ++ prettyChars level item ++ ',' :: prettyItems level items

def prettyEntries (level : Nat) : List (String × Json) → List Char
  | [] => []
  | [(key, value)] =>
    lineBreak level ++ stringChars key ++ ':' :: ' ' :: prettyChars level value
  | (key, value) :: entries =>
    lineBreak level ++ stringChars key ++ ':' :: ' ' :: prettyChars level value ++
      ',' :: prettyEntries level entries

end

def pretty (value : Json) : String :=
  String.ofList (prettyChars 0 value)

end TokenDesk.Json
