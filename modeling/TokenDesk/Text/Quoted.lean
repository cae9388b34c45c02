import TokenDesk.Text.HiddenTable
import TokenDesk.Text.Word

/-!
# Quoted text

How a path or a character is shown in a message: in quotes, with escapes for the quote that encloses
it, for the backslash and for every character that has no glyph of its own.
-/

set_option autoImplicit false

namespace TokenDesk.Text

/-- Whether a character is shown as it is. -/
def prints (c : Char) : Bool :=
  if c.toNat < 127 then 32 ≤ c.toNat else !inTable c.toNat hiddenRanges && !isExtender c

/-- The shown form of one character between the quotes that enclose it. -/
def escaped (quote c : Char) : List Char :=
  if c = quote || c = '\\' then ['\\', c]
  else
    match c with
    | '\x00' => ['\\', '0']
    | '\t' => ['\\', 't']
    | '\r' => ['\\', 'r']
    | '\n' => ['\\', 'n']
    | c =>
      if prints c then [c]
      else ['\\', 'u', '\x7b'] ++ Nat.toDigits 16 c.toNat ++ ['\x7d']

/-- A text in double quotes. -/
def quoted (s : String) : String :=
  String.ofList ('"' :: s.toList.flatMap (escaped '"') ++ ['"'])

/-- A character in single quotes. -/
def quotedChar (c : Char) : String :=
  String.ofList ('\'' :: escaped '\'' c ++ ['\''])

end TokenDesk.Text
