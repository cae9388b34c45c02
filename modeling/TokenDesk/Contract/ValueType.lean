import TokenDesk.Text.Decimal

/-!
# Types of contract values

The types that a contract's functions take and give, and the texts of them that stand in signatures.
-/

set_option autoImplicit false

namespace TokenDesk.Contract

open TokenDesk.Text

inductive ValueType where
  | address
  | bool
  | bytes
  | string
  | int (bits : Nat)
  | uint (bits : Nat)
  | fixedBytes (length : Nat)
  | array (item : ValueType)
  | fixedArray (item : ValueType) (length : Nat)
  | tuple (items : List ValueType)
  deriving Repr

namespace ValueType

mutual

/-- The text of a type in a signature. -/
def text : ValueType → String
  | address => "address"
  | bool => "bool"
  | bytes => "bytes"
  | string => "string"
  | int bits => "int" ++ decimal bits
  | uint bits => "uint" ++ decimal bits
  | fixedBytes length => "bytes" ++ decimal length
  | array item => text item ++ "[]"
  | fixedArray item length => text item ++ "[" ++ decimal length ++ "]"
  | tuple items => "(" ++ String.intercalate "," (texts items) ++ ")"

def texts : List ValueType → List String
  | [] => []
  | item :: items => text item :: texts items

end

mutual

/-- Whether a value is reached through an offset. -/
def isDynamic : ValueType → Bool
  | bytes | string | array _ => true
  | fixedArray item _ => isDynamic item
  | tuple items => anyDynamic items
  | _ => false

def anyDynamic : List ValueType → Bool
  | [] => false
  | item :: items => isDynamic item || anyDynamic items

end

/-- Whether no bytes at all can hold a value. -/
def isVoid : ValueType → Bool
  | fixedBytes length | fixedArray _ length => length == 0
  | _ => false

/-- Puts the components into a tuple or into the tuples of an array; those have to be there. -/
def fill? (components? : Option (List ValueType)) : ValueType → Option ValueType
  | array item => (fill? components? item).map array
  | fixedArray item length => (fill? components? item).map (fixedArray · length)
  | tuple items => components?.map fun components => tuple (items ++ components)
  | kind => some kind

end ValueType

end TokenDesk.Contract
