import TokenDesk.Contract.TypeText
import TokenDesk.Hash.Keccak
import TokenDesk.Json.Reader

/-!
# Callable interfaces

What a client needs of a contract's interface: the types of the constructor and of the functions. All
entries have to be well formed, also those that are not used. An entry is an object with a tag, or an
array that begins with the tag. Entries and their fields are read in the order of the text, since a
text of a type may abort the reading.
-/

set_option autoImplicit false

namespace TokenDesk.Contract

open TokenDesk.Text

/-- A function that can be called. -/
structure Function where
  name : String
  inputs : List ValueType
  outputs : List ValueType
  deriving Repr

namespace Function

/-- The name with the types of the arguments. -/
def signature (f : Function) : String :=
  f.name ++ "(" ++ String.intercalate "," (ValueType.texts f.inputs) ++ ")"

/-- The four bytes that call data begin with. -/
def selector (f : Function) : Octets :=
  (Hash.Keccak.keccak256 (octets f.signature)).take 4

end Function

/-- The constructor's arguments, where there is a constructor, and the functions in order. -/
structure Interface where
  constructor? : Option (List ValueType) := none
  functions : List Function := []
  deriving Repr

namespace Interface

/-- The first function of a name. -/
def function? (i : Interface) (name : String) : Option Function :=
  i.functions.find? (·.name == name)

/-- What the presets of a token offer for reading. -/
def tokenViews : Interface where
  functions := [
    ⟨"name", [], [.string]⟩,
    ⟨"symbol", [], [.string]⟩,
    ⟨"decimals", [], [.uint 8]⟩,
    ⟨"totalSupply", [], [.uint 256]⟩,
    ⟨"balanceOf", [.address], [.uint 256]⟩]

/-! ## Parameters -/

def readText : Json → Reading String
  | .string s => .ok s
  | _ => .failed ()

/-- Goes on where a value is of its kind. -/
def check (accepted : Bool) : Reading Unit :=
  if accepted then .ok () else .failed ()

def isText : Json → Bool
  | .string _ => true
  | _ => false

def isFlag : Json → Bool
  | .bool _ => true
  | _ => false

/-- Where a parameter stands. -/
inductive Place where | call | event | component
  deriving DecidableEq, Repr

/-- What is looked at in a parameter. In an event it tells whether it is indexed, elsewhere the type
that the source gives it. -/
def Place.fields : Place → List String
  | event => ["name", "type", "components", "indexed"]
  | call | component => ["name", "type", "components", "internalType"]

/-- What has been read of a parameter. -/
structure ParameterDraft where
  /-- The fields that have been met. -/
  met : List String := []
  kind? : Option ValueType := none
  components? : Option (List ValueType) := none

namespace ParameterDraft

/-- Takes a field other than the components. -/
def add (d : ParameterDraft) (key : String) (v : Json) : Reading ParameterDraft :=
  match key with
  | "type" => ((readText v).bind ValueType.parse).map fun kind => { d with kind? := some kind }
  | "indexed" => (check (isFlag v)).map fun _ => d
  | _ => (check (isText v)).map fun _ => d

/-- The type of a parameter with its components in place. Only components may lack a name. -/
def close (place : Place) (d : ParameterDraft) : Reading ValueType :=
  if place ≠ .component && !d.met.contains "name" then .failed ()
  else .ofOption () (d.kind?.bind fun kind => kind.fill? d.components?)

end ParameterDraft

mutual

/-- The type of a parameter. -/
def parameter (place : Place) : Json → Reading ValueType
  | .object entries => (parameterFields place {} entries).bind (ParameterDraft.close place)
  | _ => .failed ()

/-- Reads the fields of a parameter in order; none may stand there twice. -/
def parameterFields (place : Place) (d : ParameterDraft) :
    List (String × Json) → Reading ParameterDraft
  | [] => .ok d
  | (key, v) :: entries =>
    if !place.fields.contains key then parameterFields place d entries
    else if d.met.contains key then .failed ()
    else
      (parameterField { d with met := key :: d.met } key v).bind fun d =>
        parameterFields place d entries

def parameterField (d : ParameterDraft) (key : String) : Json → Reading ParameterDraft
  | .array items =>
    if key = "components" then
      (parameters .component items).map fun kinds => { d with components? := some kinds }
    else .failed ()
  | v => if key = "components" then .failed () else d.add key v

/-- The types of parameters in order. -/
def parameters (place : Place) : List Json → Reading (List ValueType)
  | [] => .ok []
  | item :: items =>
    (parameter place item).bind fun kind => (parameters place items).map (kind :: ·)

end

def parameterList (place : Place) : Json → Reading (List ValueType)
  | .array items => parameters place items
  | _ => .failed ()

/-! ## Entries -/

/-- What an entry describes, if it has fields of its own. -/
inductive EntryKind where | creation | function | event | error
  deriving DecidableEq, Repr

namespace EntryKind

def ofTag? : String → Option EntryKind
  | "constructor" => some creation
  | "function" => some function
  | "event" => some event
  | "error" => some error
  | _ => none

/-- What is looked at in an entry, in the order in which an entry without keys gives it. -/
def fields : EntryKind → List String
  | creation => ["inputs"]
  | function => ["name", "inputs", "outputs", "constant", "stateMutability"]
  | event => ["name", "inputs", "anonymous"]
  | error => ["name", "inputs"]

/-- Where the parameters of an entry stand. -/
def place : EntryKind → Place
  | event => .event
  | creation | function | error => .call

end EntryKind

def mutabilities : List String := ["pure", "view", "nonpayable", "payable"]

/-- What a call may change: one of four words, or an object with nothing under one of them. -/
def isMutability : Json → Bool
  | .string word => word ∈ mutabilities
  | .object [(word, .null)] | .object [(word, .object [])] => word ∈ mutabilities
  | _ => false

/-- The outdated mark of a function that changes nothing. -/
def isConstantMark : Json → Bool
  | .bool _ | .null => true
  | _ => false

/-- What has been read of an entry. -/
structure EntryDraft where
  /-- The fields that have been met. -/
  met : List String := []
  name : String := ""
  inputs : List ValueType := []
  outputs : List ValueType := []

namespace EntryDraft

/-- Takes a field. A name counts up to its first parenthesis. -/
def add (place : Place) (d : EntryDraft) (key : String) (v : Json) : Reading EntryDraft :=
  match key with
  | "name" =>
    (readText v).map fun name =>
      { d with name := String.ofList (name.toList.takeWhile (· != '(')) }
  | "inputs" => (parameterList place v).map fun kinds => { d with inputs := kinds }
  | "outputs" => (parameterList place v).map fun kinds => { d with outputs := kinds }
  | "constant" => (check (isConstantMark v)).map fun _ => d
  | "stateMutability" => (check (isMutability v)).map fun _ => d
  | _ => (check (isFlag v)).map fun _ => d

/-- Takes the fields of an entry in order; none may stand there twice. -/
def addAll (kind : EntryKind) (d : EntryDraft) : List (String × Json) → Reading EntryDraft
  | [] => .ok d
  | (key, v) :: entries =>
    if !kind.fields.contains key then addAll kind d entries
    else if d.met.contains key then .failed ()
    else
      ({ d with met := key :: d.met }.add kind.place key v).bind fun d => addAll kind d entries

/-- Whether all fields have been met but those that may be left out. -/
def isComplete (d : EntryDraft) (kind : EntryKind) (free : List String) : Bool :=
  kind.fields.all fun field => d.met.contains field || free.contains field

/-- Reads an entry without its tag: an object, or the fields in order. -/
def read (kind : EntryKind) : Json → Reading EntryDraft
  | .object entries => do
    let d ← addAll kind {} entries
    check (d.isComplete kind ["constant", "stateMutability"])
    return d
  | .array items => do
    let d ← addAll kind {} (kind.fields.zip items)
    check (items.length ≤ kind.fields.length && d.isComplete kind ["stateMutability"])
    return d
  | _ => .failed ()

end EntryDraft

/-- The tag of an entry and the rest of it. -/
def tagged? : Json → Option (String × Json)
  | .object entries =>
    match entries.filter (·.1 == "type") with
    | [(_, .string tag)] => some (tag, .object (entries.filter (·.1 != "type")))
    | _ => none
  | .array (.string tag :: items) => some (tag, .array items)
  | _ => none

/-- Whether an entry has nothing behind its tag, or keys that nobody looks at. -/
def isBare : Json → Bool
  | .object _ | .array [] => true
  | _ => false

/-! ## Interfaces -/

/-- Adds what an entry describes; a further constructor replaces the one before. -/
def add (i : Interface) (entry : Json) : Reading Interface := do
  let (tag, rest) ← .ofOption () (tagged? entry)
  if tag = "fallback" || tag = "receive" then
    check (isBare rest)
    return i
  else
    let kind ← .ofOption () (EntryKind.ofTag? tag)
    let d ← EntryDraft.read kind rest
    match kind with
    | .creation => return { i with constructor? := some d.inputs }
    | .function => return { i with functions := i.functions ++ [⟨d.name, d.inputs, d.outputs⟩] }
    | .event | .error => return i

/-- Adds the entries of a text one after the other: a fault in one hides what follows it. -/
def addAll (depth : Nat) (i : Interface) : List Json.Document → Reading Interface
  | [] => .ok i
  | entry :: entries =>
    match Json.readAsWritten depth entry with
    | .error _ => .failed ()
    | .ok entry => (i.add entry).bind fun i => addAll depth i entries

/-- Reads the text of an interface. -/
def parse (text : String) : Reading Interface :=
  match Json.Document.ofChars text.toList with
  | (.array entries closed, ended) => do
    let i ← addAll (Json.maxDepth - 1) {} entries
    check (closed && ended)
    return i
  | _ => .failed ()

end Interface

end TokenDesk.Contract
