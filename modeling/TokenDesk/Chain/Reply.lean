import TokenDesk.Json.Reader

/-!
# Replies

What comes back on a request to a node (JSON-RPC 2.0). A reply has a result or an error, the request's
identifier, and perhaps the version; it has nothing else, and nothing twice.
-/

set_option autoImplicit false

namespace TokenDesk

inductive Reply where
  | result (value : Json)
  | refused (message : String)
  /-- The transport answered with a status other than success. -/
  | status (code : Nat)
  /-- The answer is no reply. -/
  | garbled
  | unreachable
  deriving Repr

namespace Reply

/-- Whether an object has these keys only, and each of them at most once. -/
def isStrict (keys : List String) (entries : List (String × Json)) : Bool :=
  entries.all (fun entry => keys.contains entry.1) && decide (entries.map Prod.fst).Nodup

/-- Whether the value under a key is of a kind, if there is one. -/
def suits (accepts : Json → Bool) (key : String) (entries : List (String × Json)) : Bool :=
  ((Json.lookup key entries).map accepts).getD true

def isVersion : Json → Bool
  | .null | .string "2.0" => true
  | _ => false

/-- Whether a value identifies a request. -/
def isIdentifier : Json → Bool
  | .null | .string _ => true
  | .whole n => 0 ≤ n
  | _ => false

/-- The value under a key of a reply in which it stands beside the version and the identifier. -/
def payload? (key : String) : Json → Option Json
  | .object entries =>
    if isStrict ["jsonrpc", key, "id"] entries && suits isVersion "jsonrpc" entries &&
        ((Json.lookup "id" entries).map isIdentifier).getD false then
      Json.lookup key entries
    else none
  | .array [version, value, identifier] =>
    if isVersion version && isIdentifier identifier then some value else none
  | _ => none

/-- Whether a value is the code of an error: a number of 64 bits with sign. -/
def isCode : Json → Bool
  | .whole n => n < UInt64.size / 2
  | _ => false

/-- The message of an error. -/
def message? : Json → Option String
  | .object entries =>
    match Json.lookup "code" entries, Json.lookup "message" entries with
    | some code, some (.string message) =>
      if isStrict ["code", "message", "data"] entries && isCode code then some message else none
    | _, _ => none
  | .array [code, .string message, _] => if isCode code then some message else none
  | _ => none

/-- The reply that a value is, objects taken as they are written. -/
def ofJson (v : Json) : Reply :=
  match payload? "result" v with
  | some value => .result value.sorted
  | none =>
    match (payload? "error" v).bind message? with
    | some message => .refused message
    | none => .garbled

/-- The reply of a text. -/
def ofText (text : String) : Reply :=
  match Json.readText Json.readAsWritten text with
  | .ok v => ofJson v
  | .error _ => .garbled

/-- The reply of an answer with a status and a body. A status has three digits; one below 200 announces
another answer, which does not come, and with 204 there is no body. -/
def ofAnswer (status : Nat) (body : String) : Reply :=
  if status < 100 || 1000 ≤ status || (status < 200 && status ≠ 101) then .unreachable
  else if status = 204 then .garbled
  else if 200 ≤ status && status < 300 then ofText body
  else .status status

end Reply

end TokenDesk
