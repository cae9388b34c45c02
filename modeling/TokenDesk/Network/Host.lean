import TokenDesk.Network.Domain
import TokenDesk.Text.Hex
import TokenDesk.Text.Power

/-!
# Hosts

A host is a domain name, a number of 32 bits or one of 128 bits. The numbers are written in many ways:
the parts of the short one may be decimal, octal or hexadecimal and fewer than four, and one run of
zeros of the long one may be left out.
-/

set_option autoImplicit false

namespace TokenDesk

open TokenDesk.Text

/-- Where a connection is made to. -/
inductive Host where
  | domain (name : String)
  /-- An address of 32 bits. -/
  | short (address : Nat)
  /-- An address of eight times 16 bits. -/
  | long (pieces : List Nat)
  /-- A name that only its scheme understands. -/
  | other (name : String)
  deriving DecidableEq, Repr

namespace Host

/-- Why a text names no host. -/
inductive Error where | missing | badDomain | badShort | badLong | badCharacter
  deriving DecidableEq, Repr

def Error.message : Error → String
  | .missing => "empty host"
  | .badDomain => "invalid international domain name"
  | .badShort => "invalid IPv4 address"
  | .badLong => "invalid IPv6 address"
  | .badCharacter => "invalid domain character"

/-! ## Addresses of 32 bits -/

/-- The number of a part: hexadecimal behind `0x`, octal behind any other `0`, else decimal. -/
def part? : List Char → Option Nat
  | [] => none
  | '0' :: 'x' :: cs | '0' :: 'X' :: cs => Hex.natural? 16 cs
  | '0' :: cs => Hex.natural? 8 cs
  | cs => Hex.natural? 10 cs

/-- The parts between the dots; a dot at the end is passed over. -/
def partsOf (name : List Char) : List (List Char) :=
  let parts := splitAll '.' name
  if parts.getLast? = some [] then parts.dropLast else parts

/-- Whether a name is meant as an address: its last part is a number, or looks like one. -/
def endsInNumber (name : List Char) : Bool :=
  match (partsOf name).getLast? with
  | none | some [] => false
  | some last => last.all isDigit || (part? last).isSome

/-- An address of at most four parts. All but the last fill eight bits; the last fills what is
left. -/
def short? (name : List Char) : Option Nat :=
  match (partsOf name).mapM part? with
  | none => none
  | some numbers =>
    let before := numbers.dropLast
    let last := numbers.getLast?.getD 0
    let rest := twoTo (8 * (4 - before.length))
    if numbers.length ≤ 4 && before.all (· < 256) && last < rest then
      some (before.foldl (fun n part => n * 256 + part) 0 * rest + last)
    else none

/-! ## Addresses of 128 bits -/

/-- A piece of up to four hexadecimal digits. -/
def piece? (cs : List Char) : Option Nat :=
  if cs.isEmpty || 4 < cs.length then none else Hex.natural? 16 cs

/-- A number below 256 in decimal digits, without superfluous zeros. -/
def octet? (cs : List Char) : Option Nat :=
  if cs.isEmpty || 3 < cs.length || (cs.head? = some '0' && cs.length ≠ 1) then none
  else (Hex.natural? 10 cs).filter (· < 256)

/-- The two pieces that four numbers with dots between them make. -/
def dotted? (cs : List Char) : Option (List Nat) :=
  match (splitAll '.' cs).mapM octet? with
  | some [a, b, c, d] => some [a * 256 + b, c * 256 + d]
  | _ => none

/-- The pieces between colons, of which the last two may be written with dots. -/
def pieces? : List (List Char) → Option (List Nat)
  | [] => some []
  | [last] => if last.contains '.' then dotted? last else (piece? last).map ([·])
  | cs :: rest => do return (← piece? cs) :: (← pieces? rest)

/-- The parts before and behind the first two colons that stand together. -/
def splitGap? : List Char → Option (List Char × List Char)
  | ':' :: ':' :: cs => some ([], cs)
  | c :: cs => (splitGap? cs).map fun (before, behind) => (c :: before, behind)
  | [] => none

/-- The texts between the colons; none where there is no text. -/
def between (cs : List Char) : List (List Char) :=
  if cs.isEmpty then [] else splitAll ':' cs

/-- Eight pieces. Two colons stand for at least one piece of zero. -/
def long? (cs : List Char) : Option (List Nat) :=
  match splitGap? cs with
  | none => (pieces? (between cs)).filter (·.length = 8)
  | some (before, behind) => do
    let before ← (between before).mapM piece?
    let behind ← pieces? (between behind)
    let gap := 8 - (before.length + behind.length)
    if gap = 0 then none else some (before ++ List.replicate gap 0 ++ behind)

/-- The address between brackets, of which the opening one has been passed. -/
def bracketed (cs : List Char) : Except Error Host :=
  if cs.getLast? ≠ some ']' then .error .badLong
  else
    match long? cs.dropLast with
    | some pieces => .ok (.long pieces)
    | none => .error .badLong

/-! ## Reading -/

/-- The bytes of a text in which bytes may be written with a percent sign and two digits. -/
def unescaped : List Char → Octets
  | '%' :: a :: b :: cs =>
    match Hex.value? a, Hex.value? b with
    | some high, some low => UInt8.ofNat (high * 16 + low) :: unescaped cs
    | _, _ => octets "%" ++ unescaped (a :: b :: cs)
  | c :: cs => octets (String.singleton c) ++ unescaped cs
  | [] => []

/-- The host that a text names in a scheme of the network. -/
def parse (cs : List Char) : Except Error Host :=
  match cs with
  | '[' :: cs => bracketed cs
  | cs =>
    match ((decode? (unescaped cs)).bind fun name => Domain.parse? name.toList) with
    | none => .error .badDomain
    | some [] => .error .missing
    | some name =>
      if endsInNumber name then
        match short? name with
        | some address => .ok (.short address)
        | none => .error .badShort
      else .ok (.domain (String.ofList name))

/-- Whether no host of any scheme holds a character. -/
def isBarred (c : Char) : Bool :=
  "\x00\t\n\r #/:<>?@[\\]^|".toList.contains c

/-- The host that a text names in a scheme that may have hosts of its own kind. -/
def parseOther (cs : List Char) : Except Error Host :=
  match cs with
  | '[' :: cs => bracketed cs
  | cs => if cs.any isBarred then .error .badCharacter else .ok (.other (String.ofList cs))

end Host

end TokenDesk
