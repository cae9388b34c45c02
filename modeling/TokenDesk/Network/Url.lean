import TokenDesk.Network.Host

/-!
# URLs

A URL as far as a connection needs it: scheme, host and port. The schemes of the network always have a
host, files may have one, and any other scheme has one behind two slashes only.
-/

set_option autoImplicit false

namespace TokenDesk

open TokenDesk.Text

structure Url where
  scheme : String
  host? : Option Host := none
  /-- The port, unless it is the scheme's own. -/
  port? : Option Nat := none
  deriving DecidableEq, Repr

namespace Url

/-- Why a text is no URL. -/
inductive Error where
  | noScheme
  | host (cause : Host.Error)
  | badPort
  deriving DecidableEq, Repr

def Error.message : Error → String
  | .noScheme => "relative URL without a base"
  | .host cause => cause.message
  | .badPort => "invalid port number"

/-! ## Schemes -/

/-- How the text behind a scheme is read. -/
inductive Family where | network | file | other
  deriving DecidableEq, Repr

/-- The schemes of the network with their ports. -/
def networkSchemes : List (String × Nat) :=
  [("http", 80), ("https", 443), ("ws", 80), ("wss", 443), ("ftp", 21)]

def familyOf (scheme : String) : Family :=
  if (networkSchemes.lookup scheme).isSome then .network
  else if scheme == "file" then .file
  else .other

def isSchemeChar (c : Char) : Bool :=
  isAsciiAlphanumeric c || c == '+' || c == '-' || c == '.'

/-- The scheme in small letters, and what stands behind its colon. -/
def scheme? (cs : List Char) : Option (String × List Char) :=
  match splitFirst? ':' cs with
  | none => none
  | some (scheme, rest) =>
    if scheme.head?.any isAsciiLetter && scheme.all isSchemeChar then
      some (String.ofList (scheme.map Char.toLower), rest)
    else none

/-! ## Authorities -/

def isSlash (c : Char) : Bool :=
  c == '/' || c == '\\'

/-- Whether a character ends the host and what belongs with it. -/
def endsAuthority (family : Family) (c : Char) : Bool :=
  c == '/' || c == '?' || c == '#' || (family != .other && c == '\\')

/-- The user's part before the last at sign, if there is one, and what stands behind it. -/
def splitUser (cs : List Char) : Option (List Char) × List Char :=
  let behind := (cs.reverse.takeWhile (· != '@')).reverse
  if behind.length = cs.length then (none, cs)
  else (some (cs.take (cs.length - behind.length - 1)), behind)

/-- Whether a user's part has a name or a password. -/
def hasCredentials (user : List Char) : Bool :=
  !user.isEmpty && user != [':']

/-- How many characters the host has: it ends at a colon outside brackets. -/
def hostLength (isInside : Bool) : List Char → Nat
  | [] => 0
  | c :: cs =>
    if c == ':' && !isInside then 0
    else hostLength (c == '[' || (isInside && c != ']')) cs + 1

/-- The port behind the colon; without digits it is left open. -/
def port (scheme : String) (cs : List Char) : Except Error (Option Nat) :=
  let cs := cs.takeWhile (· != '\\')
  if cs.isEmpty then .ok none
  else
    match natural? cs with
    | none => .error .badPort
    | some n =>
      if 65535 < n then .error .badPort
      else .ok (if networkSchemes.lookup scheme = some n then none else some n)

/-- The host and the port of an authority without its user. -/
def hostAndPort (family : Family) (scheme : String) (cs : List Char) : Except Error Url :=
  let name := cs.take (hostLength false cs)
  let behind := cs.drop (hostLength false cs)
  if name.isEmpty && (family == .network || !behind.isEmpty) then .error (.host .missing)
  else do
    let host ← (if family == .network then Host.parse name else Host.parseOther name).mapError .host
    let port? ← port scheme (behind.drop 1)
    return ⟨scheme, if name.isEmpty then none else some host, port?⟩

/-- Reads what stands behind the slashes: perhaps a user, a host, and perhaps a port. -/
def authority (family : Family) (scheme : String) (cs : List Char) : Except Error Url :=
  let before := cs.takeWhile fun c => !endsAuthority family c
  let (user?, rest) := splitUser before
  if user? = some [] && rest.isEmpty && before.length < cs.length then .error (.host .missing)
  else do
    let url ← hostAndPort family scheme rest
    if url.host?.isNone && (user?.map hasCredentials).getD false then .error (.host .missing)
    else return url

/-- Whether a text is the letter of a drive. -/
def isDrive (cs : List Char) : Bool :=
  match cs with
  | [letter, mark] => isAsciiLetter letter && (mark == ':' || mark == '|')
  | _ => false

/-- Reads what stands behind the two slashes of a file: the host, if it is not this machine. -/
def fileHost (scheme : String) (cs : List Char) : Except Error Url :=
  let name := cs.takeWhile fun c => !endsAuthority .file c
  if name.isEmpty || isDrive name then .ok ⟨scheme, none, none⟩
  else do
    let host ← (Host.parse name).mapError .host
    return ⟨scheme, if host = .domain "localhost" then none else some host, none⟩

/-! ## Reading -/

/-- The characters that count: no controls and blanks at the ends, and no line breaks or tabs. -/
def stripped (text : String) : List Char :=
  let isOuter (c : Char) : Bool := c.toNat ≤ 32
  let cs := ((text.toList.dropWhile isOuter).reverse.dropWhile isOuter).reverse
  cs.filter fun c => c != '\t' && c != '\n' && c != '\r'

def parse (text : String) : Except Error Url :=
  match scheme? (stripped text) with
  | none => .error .noScheme
  | some (scheme, rest) =>
    match familyOf scheme, rest with
    | .network, rest => authority .network scheme (rest.dropWhile isSlash)
    | .file, a :: b :: rest =>
      if isSlash a && isSlash b then fileHost scheme rest else .ok ⟨scheme, none, none⟩
    | .other, '/' :: '/' :: rest => authority .other scheme rest
    | _, _ => .ok ⟨scheme, none, none⟩

end Url

end TokenDesk
