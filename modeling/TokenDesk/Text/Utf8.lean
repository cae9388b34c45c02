/-!
# Bytes and UTF-8

A text is measured and stored by its UTF-8 bytes. `decodeLossy` reads bytes of any origin: what is
no UTF-8 becomes U+FFFD, one for each longest run of bytes that could still begin a character.
-/

set_option autoImplicit false

namespace TokenDesk.Text

/-- A sequence of octets. -/
abbrev Octets := List UInt8

/-- The UTF-8 bytes of a text. -/
def octets (s : String) : Octets :=
  s.toUTF8.toList

/-- The number of UTF-8 bytes of a character list. -/
def byteLength (cs : List Char) : Nat :=
  cs.foldr (fun c n => c.utf8Size + n) 0

@[simp] theorem byteLength_nil : byteLength [] = 0 := rfl

@[simp] theorem byteLength_cons (c : Char) (cs : List Char) :
    byteLength (c :: cs) = c.utf8Size + byteLength cs := rfl

@[simp] theorem byteLength_append (before behind : List Char) :
    byteLength (before ++ behind) = byteLength before + byteLength behind := by
  induction before with
  | nil => simp
  | cons c before ih => simp [ih, Nat.add_assoc]

theorem byteLength_eq_zero_iff {cs : List Char} : byteLength cs = 0 ↔ cs = [] := by
  cases cs with
  | nil => simp
  | cons c cs =>
    have size := c.utf8Size_pos
    simp only [byteLength_cons, reduceCtorEq, iff_false]
    omega

/-- The characters behind the first `count` bytes; none inside a character or past the end. -/
def dropBytes? : Nat → List Char → Option (List Char)
  | 0, cs => some cs
  | _ + 1, [] => none
  | count + 1, c :: cs =>
    if c.utf8Size ≤ count + 1 then dropBytes? (count + 1 - c.utf8Size) cs else none
  termination_by _ cs => cs.length

/-- The characters of the first `count` bytes; none inside a character or past the end. -/
def takeBytes? : Nat → List Char → Option (List Char)
  | 0, _ => some []
  | _ + 1, [] => none
  | count + 1, c :: cs =>
    if c.utf8Size ≤ count + 1 then (takeBytes? (count + 1 - c.utf8Size) cs).map (c :: ·) else none
  termination_by _ cs => cs.length

/-- A byte that continues a character. -/
def isContinuation (b : UInt8) : Bool :=
  0x80 ≤ b && b ≤ 0xBF

/-- The second bytes that may follow a first byte, and the number of bytes after the second. -/
def continuation? (b : UInt8) : Option (UInt8 × UInt8 × Nat) :=
  if 0xC2 ≤ b && b ≤ 0xDF then some (0x80, 0xBF, 0)
  else if b = 0xE0 then some (0xA0, 0xBF, 1)
  else if b = 0xED then some (0x80, 0x9F, 1)
  else if 0xE1 ≤ b && b ≤ 0xEF then some (0x80, 0xBF, 1)
  else if b = 0xF0 then some (0x90, 0xBF, 2)
  else if 0xF1 ≤ b && b ≤ 0xF3 then some (0x80, 0xBF, 2)
  else if b = 0xF4 then some (0x80, 0x8F, 2)
  else none

/-- Up to `count` continuation bytes: the bytes themselves and the rest. -/
def takeContinuation : Nat → Octets → Octets × Octets
  | 0, bs => ([], bs)
  | _ + 1, [] => ([], [])
  | count + 1, b :: bs =>
    if isContinuation b then
      let (taken, rest) := takeContinuation count bs
      (b :: taken, rest)
    else ([], b :: bs)

/-- The scalar value of a complete sequence. -/
def scalar (first : UInt8) (others : Octets) : Nat :=
  let head :=
    if others.length = 1 then first.toNat - 0xC0
    else if others.length = 2 then first.toNat - 0xE0
    else first.toNat - 0xF0
  others.foldl (fun n b => n * 64 + (b.toNat - 0x80)) head

/-- Reads the next character: none stands for a run of bytes that is no character. -/
def nextChar : Octets → Option (Option Char × Octets)
  | [] => none
  | b :: bs =>
    if b < 0x80 then some (some (Char.ofNat b.toNat), bs)
    else
      match continuation? b, bs with
      | some (low, high, more), second :: rest =>
        if low ≤ second && second ≤ high then
          let (taken, rest) := takeContinuation more rest
          if taken.length = more then
            some (some (Char.ofNat (scalar b (second :: taken))), rest)
          else some (none, rest)
        else some (none, second :: rest)
      | _, bs => some (none, bs)

/-- Reads at most `fuel` characters. -/
def decodeFuel : Nat → Octets → List (Option Char)
  | 0, _ => []
  | fuel + 1, bs =>
    match nextChar bs with
    | none => []
    | some (c, rest) => c :: decodeFuel fuel rest

/-- The characters of a byte sequence, none for each run that is no character. -/
def decode (bs : Octets) : List (Option Char) :=
  decodeFuel bs.length bs

/-- The characters of a byte sequence, with U+FFFD for what is no character. -/
def decodeLossy (bs : Octets) : String :=
  String.ofList ((decode bs).map fun c => c.getD '\uFFFD')

/-- The text of a byte sequence that is UTF-8 throughout. -/
def decode? (bs : Octets) : Option String :=
  String.fromUTF8? (ByteArray.mk bs.toArray)

end TokenDesk.Text
