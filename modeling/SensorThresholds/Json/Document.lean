import SensorThresholds.Json.Written

/-!
A document is what a JSON text denotes: literals become numbers, and the members of an object are
in the order of their keys, the last member winning where several have one key.
-/

namespace SensorThresholds

abbrev Document := Json Number

namespace Document

/-- Puts a member in its place among members in the order of their keys. -/
def insertMember (key : String) (value : Document) :
    List (String × Document) → List (String × Document)
  | [] => [(key, value)]
  | (k, v) :: rest =>
    if key < k then (key, value) :: (k, v) :: rest
    else if key = k then (key, value) :: rest
    else (k, v) :: insertMember key value rest

def sortMembers (members : List (String × Document)) : List (String × Document) :=
  members.foldl (fun sorted m => insertMember m.1 m.2 sorted) []

mutual

/-- The document that a tree denotes; nothing where a literal is too large for a double. -/
def ofWritten? : Written → Option Document
  | .null => some .null
  | .bool b => some (.bool b)
  | .number l => l.number?.map .number
  | .string s => some (.string s)
  | .array items => (ofItems? items).map .array
  | .object members => (ofMembers? members).map fun ms => .object (sortMembers ms)

def ofItems? : List Written → Option (List Document)
  | [] => some []
  | v :: rest => do return (← ofWritten? v) :: (← ofItems? rest)

def ofMembers? : List (String × Written) → Option (List (String × Document))
  | [] => some []
  | (k, v) :: rest => do return (k, ← ofWritten? v) :: (← ofMembers? rest)

end

def read? (text : String) : Option Document := (Written.read? text).bind ofWritten?

end Document
end SensorThresholds
