import TokenDesk.Assistant.NatSpec

/-!
# Editing a text

Insertions into a source text, at a line or at byte offsets. A piece is put in whole or, where the
offset is no character boundary of the text, not at all.
-/

set_option autoImplicit false

namespace TokenDesk.Assistant

open TokenDesk.Text

/-- The text with a piece at a byte offset; none inside a character or past the end. -/
def insertAt (piece : List Char) : Nat → List Char → Option (List Char)
  | 0, cs => some (piece ++ cs)
  | _ + 1, [] => none
  | offset + 1, c :: cs =>
    if c.utf8Size ≤ offset + 1 then
      (insertAt piece (offset + 1 - c.utf8Size) cs).map (c :: ·)
    else none
  termination_by _ cs => cs.length

/-- The byte offset behind so many line feeds, counted from `offset`; the end where they run out. -/
def offsetBehind : Nat → Nat → List Char → Nat
  | 0, offset, _ => offset
  | _ + 1, offset, [] => offset
  | feeds + 1, offset, c :: cs =>
    if c = '\n' then offsetBehind feeds (offset + 1) cs
    else offsetBehind (feeds + 1) (offset + c.utf8Size) cs

/-- The byte offset of the start of a line, lines counted from 1. -/
def lineOffset (text : String) (line : Nat) : Nat :=
  offsetBehind (line - 1) 0 text.toList

/-- The block with the line feeds that keep the lines around it apart. -/
def fitBlock (text : List Char) (atEnd : Bool) (block : List Char) : List Char :=
  let block :=
    if atEnd && !text.isEmpty && text.getLast? != some '\n' then '\n' :: block else block
  if !atEnd && block.getLast? != some '\n' then block ++ ['\n'] else block

/-- The text with a block before a line, or at its end where it has no such line. -/
def insertAtLine (text : String) (line : Nat) (block : String) : Option String :=
  let cs := text.toList
  let offset := lineOffset text line
  (insertAt (fitBlock cs (offset == byteLength cs) block.toList) offset cs).map String.ofList

/-- The insertions with falling offsets; equal offsets keep their order. -/
def byFallingOffset (insertions : List (Nat × String)) : List (Nat × String) :=
  insertions.mergeSort fun a b => b.1 ≤ a.1

/-- Puts pieces in one after the other, up to the first that does not fit, and tells whether all
did. -/
def insertEach : List (Nat × String) → List Char → List Char × Bool
  | [], cs => (cs, true)
  | (offset, piece) :: insertions, cs =>
    match insertAt piece.toList offset cs with
    | some cs => insertEach insertions cs
    | none => (cs, false)

/-- The text with every piece at its offset in the text as it was, and whether every piece fit. -/
def insertAtOffsets (text : String) (insertions : List (Nat × String)) : String × Bool :=
  let (cs, complete) := insertEach (byFallingOffset insertions) text.toList
  (String.ofList cs, complete)

/-- The comments that go before the declarations of a text. -/
def comments (text : String) (date : Time.Date) : List (Nat × String) :=
  (NatSpec.find text).map fun (offset, spec) => (offset, spec.render date)

/-- The contract that a new source file starts from. -/
def erc20Template : String :=
  String.intercalate "\n" [
    "// SPDX-License-Identifier: MIT",
    "pragma solidity ^0.8.20;",
    "",
    "import \"@openzeppelin/contracts/token/ERC20/ERC20.sol\";",
    "import \"@openzeppelin/contracts/access/Ownable.sol\";",
    "",
    "contract MyToken is ERC20, Ownable \x7b",
    "    constructor(address initialOwner) ERC20(\"MyToken\", \"MTK\") Ownable(initialOwner) \x7b",
    "        // Mint 100 tokens to the initial owner",
    "        _mint(initialOwner, 100 * 10**decimals());",
    "    \x7d",
    "",
    "    function mint(address to, uint256 amount) public onlyOwner \x7b",
    "        _mint(to, amount);",
    "    \x7d",
    "\x7d"]

end TokenDesk.Assistant
