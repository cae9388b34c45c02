import TokenDesk.Json.Basic
import TokenDesk.Json.Document

/-!
# Reading values from documents

A reader takes the nesting that is still allowed and a document, and answers with a value or with the
first fault in the order of the text. Values without a type are read by `Json.read`; a record type is
read by its `Layout`, from an object with its keys in any order or from an array in declared order.
-/

set_option autoImplicit false

namespace TokenDesk.Json

open TokenDesk.Text

/-- Why a document has no value of the type asked. -/
inductive Fault where | missing (field : String) | invalid
  deriving DecidableEq, Repr

def Fault.message : Fault → String
  | .missing field => "missing field `" ++ field ++ "`"
  | .invalid => "invalid"

/-- How a type is read at a remaining nesting. -/
abbrev Reader (α : Type) := Nat → Document → Except Fault α

/-- The nesting that a text may have. -/
def maxDepth : Nat := 127

/-- Reads a text that holds one document. -/
def readText {α : Type} (reader : Reader α) (text : String) : Except Fault α :=
  let (document, ended) := Document.ofChars text.toList
  match reader maxDepth document with
  | .error fault => .error fault
  | .ok a => if ended then .ok a else .error .invalid

/-! ## Numbers -/

/-- The leading digits of a number that fit 64 bits, and how many follow. -/
def significand (n : Nat) : List Char → Nat × Nat
  | [] => (n, 0)
  | c :: cs =>
    let more := n * 10 + digitValue c
    if more < UInt64.size then significand more cs else (n, cs.length + 1)

/-- The significand and its exponent with the digits of the fraction that fit. -/
def withFraction (n : Nat) (exponent : Int) : List Char → Nat × Int
  | [] => (n, exponent)
  | c :: cs =>
    let more := n * 10 + digitValue c
    if more < UInt64.size then withFraction more (exponent - 1) cs else (n, exponent)

/-- Scales by a power of ten in steps that a double can hold; none where the result is too large. -/
def scaled? : Nat → Double → Int → Option Double
  | 0, d, _ => some d
  | fuel + 1, d, exponent =>
    if exponent.natAbs ≤ 308 then
      if 0 ≤ exponent then
        let product := d.timesPower exponent.toNat
        if product.isInfinite then none else some product
      else some (d.overPower exponent.natAbs)
    else if d.magnitude = 0 then some d
    else if 0 ≤ exponent then none
    else scaled? fuel (d.overPower 308) (exponent + 308)

/-- The highest exponent that is counted. -/
def maxExponent : Nat := 2147483647

def clampExponent (e : Int) : Int :=
  max (-(maxExponent : Int) - 1) (min maxExponent e)

/-- The double of a number as written; none where it is too large. -/
def Numeral.double? (n : Numeral) : Option Double :=
  let (lead, dropped) := significand 0 n.whole
  let (digits, start) := withFraction lead (dropped : Int) (n.fraction?.getD [])
  let signed (d : Double) : Double := { d with negative := n.negative }
  match n.exponent? with
  | none => (scaled? 10 (Double.ofNat digits) start).map signed
  | some (negative, run) =>
    let e := natOfDigits run
    if maxExponent < e then
      if digits ≠ 0 && !negative then none else some (signed ⟨false, 0⟩)
    else
      let e : Int := if negative then start - e else start + e
      (scaled? 10 (Double.ofNat digits) (clampExponent e)).map signed

/-- Whether a number is written with neither point nor exponent. -/
def Numeral.isPlain (n : Numeral) : Bool :=
  n.fraction?.isNone && n.exponent?.isNone

/-- A whole number that fits 64 bits with or without sign stays whole; negative zero does not. -/
def Numeral.value? (n : Numeral) : Option Json :=
  let magnitude := natOfDigits n.whole
  if n.isPlain && !n.negative && magnitude < UInt64.size then some (.whole magnitude)
  else if n.isPlain && n.negative && 0 < magnitude && magnitude ≤ UInt64.size / 2 then
    some (.whole (-(magnitude : Int)))
  else n.double?.map .double

/-! ## Values without a type -/

mutual

/-- Reads any value; objects keep their entries as written, repeated keys too. -/
def readAsWritten : Reader Json
  | _, .null => .ok .null
  | _, .bool b => .ok (.bool b)
  | _, .number n =>
    match n.value? with
    | some v => .ok v
    | none => .error .invalid
  | _, .string (some s) => .ok (.string s)
  | depth + 1, .array items closed =>
    match readItems depth items with
    | .error fault => .error fault
    | .ok items => if closed then .ok (.array items) else .error .invalid
  | depth + 1, .object entries closed =>
    match readEntries depth entries with
    | .error fault => .error fault
    | .ok entries => if closed then .ok (.object entries) else .error .invalid
  | _, _ => .error .invalid

def readItems (depth : Nat) : List Document → Except Fault (List Json)
  | [] => .ok []
  | item :: items =>
    match readAsWritten depth item with
    | .error fault => .error fault
    | .ok item =>
      match readItems depth items with
      | .error fault => .error fault
      | .ok items => .ok (item :: items)

def readEntries (depth : Nat) : List (Option String × Document) →
    Except Fault (List (String × Json))
  | [] => .ok []
  | (none, _) :: _ => .error .invalid
  | (some key, v) :: entries =>
    match readAsWritten depth v with
    | .error fault => .error fault
    | .ok v =>
      match readEntries depth entries with
      | .error fault => .error fault
      | .ok entries => .ok ((key, v) :: entries)

end

/-- Reads any value; keys ascend, and of a repeated key the last entry stays. -/
def read : Reader Json := fun depth document =>
  (readAsWritten depth document).map Json.sorted

/-! ## Plain types -/

def readString : Reader String
  | _, .string (some s) => .ok s
  | _, _ => .error .invalid

def readBool : Reader Bool
  | _, .bool b => .ok b
  | _, _ => .error .invalid

/-- A plain whole number of 64 bits. -/
def readWord : Reader UInt64
  | _, .number n =>
    if n.isPlain && !n.negative && natOfDigits n.whole < UInt64.size then
      .ok (UInt64.ofNat (natOfDigits n.whole))
    else .error .invalid
  | _, _ => .error .invalid

/-- A value or null. -/
def readOptional {α : Type} (reader : Reader α) : Reader (Option α)
  | _, .null => .ok none
  | depth, document => (reader depth document).map some

/-- The items of an array, each by the reader. -/
def readEach {α : Type} (item : Document → Except Fault α) : List Document → Except Fault (List α)
  | [] => .ok []
  | d :: ds =>
    match item d with
    | .error fault => .error fault
    | .ok a =>
      match readEach item ds with
      | .error fault => .error fault
      | .ok as => .ok (a :: as)

def readList {α : Type} (reader : Reader α) : Reader (List α)
  | depth + 1, .array items closed =>
    match readEach (reader depth) items with
    | .error fault => .error fault
    | .ok as => if closed then .ok as else .error .invalid
  | _, _ => .error .invalid

/-- The values of an object under ascending keys; of equal keys the last one stays. -/
def putAscending {α : Type} (key : String) (a : α) : List (String × α) → List (String × α)
  | [] => [(key, a)]
  | (k, b) :: table =>
    if key < k then (key, a) :: (k, b) :: table
    else if key = k then (key, a) :: table
    else (k, b) :: putAscending key a table

def readEntriesOf {α : Type} (reader : Document → Except Fault α) :
    List (String × α) → List (Option String × Document) → Except Fault (List (String × α))
  | table, [] => .ok table
  | _, (none, _) :: _ => .error .invalid
  | table, (some key, v) :: entries =>
    match reader v with
    | .error fault => .error fault
    | .ok a => readEntriesOf reader (putAscending key a table) entries

def readTable {α : Type} (reader : Reader α) : Reader (List (String × α))
  | depth + 1, .object entries closed =>
    match readEntriesOf (reader depth) [] entries with
    | .error fault => .error fault
    | .ok table => if closed then .ok table else .error .invalid
  | _, _ => .error .invalid

/-! ## Record types -/

/-- How a record type is read: a draft takes one field after the other and is closed in the end. -/
structure Layout (δ α : Type) where
  /-- The fields in declared order. -/
  names : List String
  /-- The draft without any field. -/
  start : δ
  /-- Reads a field into the draft; only called with the names above. -/
  field : String → δ → Reader δ
  /-- Whether the draft has the field already. -/
  has : String → δ → Bool
  /-- Closes the draft; the first absent field without a default is missing. -/
  finish : δ → Except Fault α

/-- Reads the entries of an object. Unknown keys count for nothing, a repeated field is a fault. -/
def readFields {δ α : Type} (layout : Layout δ α) (depth : Nat) :
    δ → List (Option String × Document) → Except Fault δ
  | draft, [] => .ok draft
  | _, (none, _) :: _ => .error .invalid
  | draft, (some key, v) :: entries =>
    if key ∈ layout.names then
      if layout.has key draft then .error .invalid
      else
        match layout.field key draft depth v with
        | .error fault => .error fault
        | .ok draft => readFields layout depth draft entries
    else readFields layout depth draft entries

/-- Reads the items of an array as the fields in declared order. -/
def readPlaces {δ α : Type} (layout : Layout δ α) (depth : Nat) :
    List String → δ → List Document → Except Fault δ
  | _, draft, [] => .ok draft
  | [], _, _ :: _ => .error .invalid
  | name :: names, draft, v :: items =>
    match layout.field name draft depth v with
    | .error fault => .error fault
    | .ok draft => readPlaces layout depth names draft items

/-- Reads a record from an object or an array. -/
def readRecord {δ α : Type} (layout : Layout δ α) : Reader α
  | depth + 1, .object entries closed =>
    match readFields layout depth layout.start entries with
    | .error fault => .error fault
    | .ok draft => if closed then layout.finish draft else .error .invalid
  | depth + 1, .array items closed =>
    match readPlaces layout depth layout.names layout.start items with
    | .error fault => .error fault
    | .ok draft =>
      match layout.finish draft with
      | .error _ => .error .invalid
      | .ok a => if closed then .ok a else .error .invalid
  | _, _ => .error .invalid

/-- A field that has to be there. -/
def required {α : Type} (name : String) (value? : Option α) : Except Fault α :=
  match value? with
  | some a => .ok a
  | none => .error (.missing name)

end TokenDesk.Json
