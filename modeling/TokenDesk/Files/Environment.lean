import TokenDesk.Text.Blank
import TokenDesk.Text.Lines
import TokenDesk.Text.Word

/-!
# Environment files

Variables, and the files that add to them. Each line of a file assigns one variable. A variable that
is set keeps its value, so the first assignment wins; the lines above a bad one keep their effect.
-/

set_option autoImplicit false

namespace TokenDesk

open TokenDesk.Text

/-- The variables that are set. -/
abbrev Environment := List (String × String)

namespace Environment

/-- Sets a variable that is not set yet. -/
def define (env : Environment) (name value : String) : Environment :=
  if (env.lookup name).isSome then env else env ++ [(name, value)]

/-! ## Values -/

/-- The quotes around the text that is being read. -/
inductive Quote where | none | strong | weak
  deriving DecidableEq, Repr

/-- What the next character belongs to. -/
inductive Stage where
  | plain
  /-- A backslash stands before it. -/
  | escaped
  /-- The name of a variable behind a dollar sign. -/
  | name
  /-- The name of a variable in braces. -/
  | braces
  /-- Blanks have ended the value. -/
  | ended
  deriving DecidableEq, Repr

/-- A value being read; both texts are reversed. -/
structure Draft where
  quote : Quote := .none
  stage : Stage := .plain
  named : List Char := []
  output : List Char := []
  deriving Repr

namespace Draft

def push (d : Draft) (c : Char) : Draft :=
  { d with stage := .plain, output := c :: d.output }

/-- Puts the value of the named variable in; an unknown one has no text. -/
def substitute (d : Draft) (env : Environment) : Draft :=
  let value := (env.lookup (String.ofList d.named.reverse)).getD ""
  { d with stage := .plain, named := [], output := value.toList.reverse ++ d.output }

/-- The character of an escape. -/
def unescape? (c : Char) : Option Char :=
  if c = 'n' then some '\n'
  else if c ∈ ['\\', '\'', '"', '$', ' '] then some c
  else none

def plainStep (d : Draft) (c : Char) : Draft :=
  match d.quote with
  | .strong => if c = '\'' then { d with quote := .none } else d.push c
  | .weak =>
    if c = '$' then { d with stage := .name }
    else if c = '"' then { d with quote := .none }
    else if c = '\\' then { d with stage := .escaped }
    else d.push c
  | .none =>
    if c = '$' then { d with stage := .name }
    else if c = '\'' then { d with quote := .strong }
    else if c = '"' then { d with quote := .weak }
    else if c = '\\' then { d with stage := .escaped }
    else if c = ' ' || c = '\t' then { d with stage := .ended }
    else d.push c

/-- A character behind a dollar sign: it goes on with the name or ends it and stands for itself. -/
def nameStep (d : Draft) (env : Environment) (c : Char) : Draft :=
  if isAlphanumeric c then { d with named := c :: d.named }
  else if c = '\x7b' && d.named.isEmpty then { d with stage := .braces }
  else if c = '$' then { d.substitute env with stage := .name }
  else (d.substitute env).push c

/-- Reads the characters of a value; none where one does not belong there. -/
def run (env : Environment) (d : Draft) : List Char → Option Draft
  | [] => some d
  | c :: cs =>
    match d.stage with
    | .plain => run env (d.plainStep c) cs
    | .escaped =>
      match unescape? c with
      | some e => run env (d.push e) cs
      | none => none
    | .name => run env (d.nameStep env c) cs
    | .braces =>
      if c = '\x7d' then run env (d.substitute env) cs
      else run env { d with named := c :: d.named } cs
    | .ended =>
      if c = ' ' || c = '\t' then run env d cs
      else if c = '#' then some d
      else none

end Draft

/-- Reads a value; quotes and braces have to be closed. -/
def value? (env : Environment) (cs : List Char) : Option String :=
  match Draft.run env {} cs with
  | none => none
  | some d =>
    if d.stage = .braces || d.quote ≠ .none then none
    else some (String.ofList (d.substitute env).output.reverse)

/-! ## Lines -/

def startsName (c : Char) : Bool :=
  isAsciiLetter c || c == '_'

def continuesName (c : Char) : Bool :=
  isAsciiAlphanumeric c || c == '_' || c == '.'

/-- Reads a variable name and the blanks behind it. -/
def name? (cs : List Char) : Option (String × List Char) :=
  match cs with
  | [] => none
  | c :: _ =>
    if startsName c then
      some (String.ofList (cs.takeWhile continuesName),
        (cs.dropWhile continuesName).dropWhile isBlank)
    else none

/-- Reads a name and the equals sign; the word `export` may stand before the name. -/
def target? (cs : List Char) : Option (String × List Char) := do
  let (name, rest) ← name? cs
  match after? ['='] rest with
  | some rest => some (name, rest)
  | none =>
    if name == "export" then do
      let (name, rest) ← name? rest
      (after? ['='] rest).map (name, ·)
    else none

/-- What a line holds. -/
inductive Line where | blank | assignment (name value : String)
  deriving DecidableEq, Repr

/-- Whether nothing but a comment follows. -/
def isVoid (cs : List Char) : Bool :=
  cs.isEmpty || cs.head? == some '#'

def line? (env : Environment) (text : String) : Option Line :=
  let cs := (trimEnd text.toList).dropWhile isBlank
  if isVoid cs then some .blank
  else
    match target? cs with
    | none => none
    | some (name, rest) =>
      let rest := rest.dropWhile isBlank
      if isVoid rest then some (.assignment name "")
      else (value? env rest).map (.assignment name)

/-! ## Files -/

/-- How the reading of a file ended; a value with a NUL cannot be set and aborts the program. -/
inductive Loading where | loaded | malformed | aborted
  deriving DecidableEq, Repr

def loadLines (env : Environment) : List Octets → Loading × Environment
  | [] => (.loaded, env)
  | bytes :: lines =>
    match (decode? bytes).bind (line? env) with
    | none => (.malformed, env)
    | some .blank => loadLines env lines
    | some (.assignment name value) =>
      if (env.lookup name).isNone && '\x00' ∈ value.toList then (.aborted, env)
      else loadLines (env.define name value) lines

/-- Adds the assignments of a file. -/
def load (env : Environment) (bytes : Octets) : Loading × Environment :=
  loadLines env (inputLines bytes)

end Environment

end TokenDesk
