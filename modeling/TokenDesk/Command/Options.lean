import TokenDesk.Text.Blank
import TokenDesk.Text.Decimal

/-!
# Command line arguments

Options stand in any order, each at most once. A value follows its option or is attached to it; only an
attached value may begin with a hyphen. Options of one letter can share a hyphen. Behind two hyphens
that stand alone everything is a plain word.
-/

set_option autoImplicit false

namespace TokenDesk.Command

open TokenDesk.Text

/-- What an option needs. -/
inductive Need where
  | nothing
  | text
  /-- A text that is not empty. -/
  | path
  /-- A numeral of 64 bits. -/
  | number
  deriving DecidableEq, Repr

def Need.accepts : Need → String → Bool
  | .path, value => value != ""
  | .number, value => (word64 value).toOption.isSome
  | _, _ => true

/-- An option with its name and, for some, its letter. -/
structure Setting where
  name : String
  need : Need
  letter? : Option Char := none
  deriving DecidableEq, Repr

/-- Arguments that have been read: the options by name and the plain words. -/
structure Arguments where
  given : List (String × String) := []
  words : List String := []
  deriving DecidableEq, Repr

namespace Arguments

def value? (a : Arguments) (name : String) : Option String :=
  a.given.lookup name

def number? (a : Arguments) (name : String) : Option Nat :=
  (a.value? name).bind fun text => (word64 text).toOption.map UInt64.toNat

/-- Whether an option without a value is given. -/
def has (a : Arguments) (name : String) : Bool :=
  (a.value? name).isSome

/-- Adds an option that is not given yet and has the value it needs. -/
def add? (a : Arguments) (s : Setting) (value : String) : Option Arguments :=
  if a.has s.name || !s.need.accepts value then none
  else some { a with given := a.given ++ [(s.name, value)] }

/-- Reads an option by name; one without the value it needs is left open. -/
def addNamed? (settings : List Setting) (a : Arguments) (cs : List Char) :
    Option (Arguments × Option Setting) := do
  let (name, attached?) :=
    match splitFirst? '=' cs with
    | some (name, value) => (name, some (String.ofList value))
    | none => (cs, none)
  let s ← settings.find? (·.name == String.ofList name)
  match attached?, s.need with
  | none, .nothing => (a.add? s "").map (·, none)
  | none, _ => return (a, some s)
  | some _, .nothing => none
  | some value, _ => (a.add? s value).map (·, none)

/-- Reads options by letter; what follows the letter of an option with a value is the value. -/
def addLetters? (settings : List Setting) : Arguments → List Char →
    Option (Arguments × Option Setting)
  | a, [] => some (a, none)
  | a, c :: cs =>
    match settings.find? (·.letter? == some c) with
    | none => none
    | some s =>
      if s.need = .nothing then (a.add? s "").bind fun a => addLetters? settings a cs
      else if cs.isEmpty then some (a, some s)
      else (a.add? s (String.ofList ((after? ['='] cs).getD cs))).map (·, none)

/-- Whether an argument stands for an option. -/
def isOption (argument : String) : Bool :=
  match argument.toList with
  | '-' :: _ :: _ => true
  | _ => false

/-- Reads an option, and its value from the arguments behind it where it is left open. -/
def addOption? (settings : List Setting) (a : Arguments) (argument : String) :
    Option (Arguments × Option Setting) :=
  match argument.toList with
  | '-' :: '-' :: cs => addNamed? settings a cs
  | '-' :: cs => addLetters? settings a cs
  | _ => none

/-- Reads arguments, either all of them or up to the first plain word. -/
def readFrom (settings : List Setting) (toFirstWord : Bool) : Arguments → List String →
    Option (Arguments × List String)
  | a, [] => some (a, [])
  | a, argument :: rest =>
    if argument = "--" then
      if toFirstWord then none else some ({ a with words := a.words ++ rest }, [])
    else if isOption argument then
      match addOption? settings a argument with
      | none => none
      | some (a, none) => readFrom settings toFirstWord a rest
      | some (a, some s) =>
        match rest with
        | [] => none
        | value :: rest =>
          if isOption value then none
          else
            match a.add? s value with
            | none => none
            | some a => readFrom settings toFirstWord a rest
    else if toFirstWord then some (a, argument :: rest)
    else readFrom settings toFirstWord { a with words := a.words ++ [argument] } rest

/-- Reads arguments that are all options. -/
def ofOptions? (settings : List Setting) (arguments : List String) : Option Arguments :=
  match readFrom settings false {} arguments with
  | some (a, _) => if a.words.isEmpty then some a else none
  | none => none

end Arguments

/-! ## The options -/

namespace Setting

def workspace : Setting := ⟨"workspace", .path, none⟩
def network : Setting := ⟨"network", .text, none⟩
def contract : Setting := ⟨"contract", .text, none⟩
def source : Setting := ⟨"source", .text, none⟩
def token : Setting := ⟨"token", .text, none⟩
def function : Setting := ⟨"function", .text, none⟩
def image : Setting := ⟨"image", .text, none⟩
def file : Setting := ⟨"file", .path, none⟩
def line : Setting := ⟨"line", .number, none⟩
def output : Setting := ⟨"output", .path, some 'o'⟩
def quiet : Setting := ⟨"quiet", .nothing, some 'q'⟩

end Setting

/-- The directory of the workspace where no option names one. -/
def defaultRoot : String := "."

end TokenDesk.Command
