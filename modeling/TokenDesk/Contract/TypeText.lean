import TokenDesk.Contract.ValueType
import TokenDesk.Run.Ending
import TokenDesk.Text.Blank
import TokenDesk.Text.Utf8

/-!
# Texts of types

How the text of a type is read. A name that is no type stands for an enumeration, which is held in a
byte. Places in a text are counted in characters and cut in bytes; where the two fall apart, a cut
inside a character aborts, and so does a size without an item before it.

In a tuple, what stands right before an inner tuple counts for nothing, and only a tuple without inner
ones takes the brackets behind it along.
-/

set_option autoImplicit false

namespace TokenDesk.Contract

open TokenDesk.Text

/-- What reading comes to where it may find nothing of the kind that is read. -/
abbrev Reading := Ending Unit

namespace ValueType

/-- A 64-bit numeral. -/
def length? (cs : List Char) : Option Nat :=
  match word64 (String.ofList cs) with
  | .ok n => some n.toNat
  | .error _ => none

/-- The type of a plain name. -/
def named? (name : List Char) : Option ValueType :=
  match String.ofList name with
  | "address" => some address
  | "bool" => some bool
  | "bytes" => some bytes
  | "string" => some string
  | "int" => some (int 256)
  | "uint" => some (uint 256)
  | "tuple" => some (tuple [])
  | _ =>
    match after? "int".toList name, after? "uint".toList name, after? "bytes".toList name with
    | some size, _, _ => (length? size).map int
    | _, some size, _ => (length? size).map uint
    | _, _, some size => (length? size).map fixedBytes
    | none, none, none => some (uint 8)

/-- The part of a text from one byte up to another. -/
def cut (name : List Char) (first last : Nat) : Reading (List Char) :=
  .orAbort ((dropBytes? first name).bind (takeBytes? (last - first)))

/-- An array of items; the empty size stands for any number of them. -/
def arrayOf (item : ValueType) (size : List Char) : Reading ValueType :=
  if size.isEmpty then .ok (array item)
  else .ofOption () ((length? size).map (fixedArray item))

/-- The sizes in the brackets that a text begins with. -/
def sizes : List Char → List (List Char)
  | '[' :: cs =>
    match splitFirst? ']' cs with
    | some (size, rest) =>
      if size.any (fun c => c == ',' || c == '(' || c == ')') then []
      else if rest.length < cs.length then size :: sizes rest
      else []
    | none => []
  | _ => []
  termination_by cs => cs.length

/-- The array type that the sizes make of an item. -/
def wrap (item : ValueType) : List (List Char) → Reading ValueType
  | [] => .ok item
  | size :: sizes => (arrayOf item size).bind fun item => wrap item sizes

/-- A tuple that is being read. -/
structure Draft where
  /-- How many parentheses are open. -/
  depth : Nat := 0
  /-- Where the item being read begins. -/
  start : Nat := 1
  /-- Whether no tuple has been closed in the one that was opened last. -/
  flat : Bool := false
  /-- The items of the open tuples, those of the inner ones first. -/
  levels : List (List ValueType) := [[]]

namespace Draft

/-- Adds an item to the innermost open tuple. -/
def push (d : Draft) (item : ValueType) : Draft :=
  match d.levels with
  | [] => { d with levels := [[item]] }
  | items :: levels => { d with levels := (items ++ [item]) :: levels }

/-- Ends the item before a place; an empty one counts for nothing. -/
def endItem (read : List Char → Reading ValueType) (name : List Char) (place : Nat) (d : Draft) :
    Reading Draft := do
  let item ← cut name d.start place
  if item.isEmpty then return d
  else
    let kind ← read item
    return { d.push kind with start := place + 1 }

/-- Closes an inner tuple at a place; `rest` is what follows it. -/
def close (d : Draft) (place : Nat) (rest : List Char) : Reading Draft :=
  match d.levels with
  | items :: levels => do
    let sizes := if d.flat then sizes rest else []
    let kind ← wrap (tuple items) sizes
    let behind := sizes.foldr (fun size n => size.length + 2 + n) (place + 1)
    return { d with levels := levels, depth := d.depth - 1, start := behind, flat := false }.push kind
  | [] => .ok d

/-- Takes the character at a place. -/
def step (read : List Char → Reading ValueType) (name : List Char) (place : Nat) (c : Char)
    (rest : List Char) (d : Draft) : Reading Draft :=
  match c with
  | '(' =>
    if d.depth = 0 then .ok { d with depth := 1, flat := true }
    else
      .ok { d with depth := d.depth + 1, start := place + 1, flat := true, levels := [] :: d.levels }
  | ')' =>
    if d.depth = 0 then .failed ()
    else
      (d.endItem read name place).bind fun d =>
        if d.depth = 1 then .ok { d with depth := 0 } else d.close place rest
  | ',' =>
    if d.depth = 0 then .ok d
    else (d.endItem read name place).map fun d => { d with start := place + 1 }
  | _ => .ok d

/-- Takes the characters from a place on. -/
def run (read : List Char → Reading ValueType) (name : List Char) (place : Nat) (d : Draft) :
    List Char → Reading Draft
  | [] => .ok d
  | c :: cs => (d.step read name place c cs).bind fun d => run read name (place + 1) d cs

/-- The items of the outermost tuple. -/
def items (d : Draft) : List ValueType :=
  (d.levels.getLast?).getD []

end Draft

/-- Reads a text in brackets: the item stands before the last opening one. -/
def readArray (read : List Char → Reading ValueType) (name : List Char) : Reading ValueType :=
  let size := ((name.dropLast.reverse).takeWhile (· != '[')).reverse
  if size.isEmpty then
    if name.length < 2 then .aborted
    else
      (cut name 0 (name.length - 2)).bind fun item => (read item).map array
  else
    match length? size with
    | none => .failed ()
    | some length =>
      if name.length < size.length + 2 then .aborted
      else
        (cut name 0 (name.length - (size.length + 2))).bind fun item =>
          (read item).map (fixedArray · length)

/-- Reads a text that nests at most `fuel` types. -/
def parseFuel : Nat → List Char → Reading ValueType
  | 0, name => .ofOption () (named? name)
  | fuel + 1, name =>
    match name.getLast? with
    | some ']' => readArray (parseFuel fuel) name
    | some ')' =>
      if name.head? = some '(' then
        (Draft.run (parseFuel fuel) name 0 {} name).map fun d => tuple d.items
      else .failed ()
    | _ => .ofOption () (named? name)

/-- Reads the text of a type. -/
def parse (text : String) : Reading ValueType :=
  parseFuel (text.length + 1) text.toList

end ValueType

end TokenDesk.Contract
