/-!
JSON trees over a type of numbers. The members of an object are a list, in the order in which they
stand, so that one type serves for a text as it is written and for the document that it denotes.
-/

namespace SensorThresholds

inductive Json (ν : Type) where
  | null
  | bool (value : Bool)
  | number (value : ν)
  | string (value : String)
  | array (items : List (Json ν))
  | object (members : List (String × Json ν))
  deriving Repr

namespace Json

variable {ν : Type}

/-- What an object holds under a key. -/
inductive Field (ν : Type) where
  | absent
  | null
  | present (value : Json ν)
  deriving Repr

/-- The value of the first member called `key`; other trees than objects have no members. -/
def get? (key : String) : Json ν → Option (Json ν)
  | object members => (members.find? (·.1 == key)).map (·.2)
  | _ => none

def field (tree : Json ν) (key : String) : Field ν :=
  match tree.get? key with
  | none => .absent
  | some .null => .null
  | some value => .present value

def isObject : Json ν → Bool
  | object _ => true
  | _ => false

def text? : Json ν → Option String
  | string value => some value
  | _ => none

end Json
end SensorThresholds
