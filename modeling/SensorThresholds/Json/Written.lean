import SensorThresholds.Json
import SensorThresholds.Json.Token

/-!
JSON text as a tree whose members and literals stand as they are written. The reader takes one token
at a time and keeps the containers that are still open on a stack.
-/

namespace SensorThresholds

abbrev Written := Json Literal

namespace Written

/-- A container that is still open, with what it holds so far, the latest first; an object also has
the key whose value is being read. -/
inductive Frame where
  | array (items : List Written)
  | object (members : List (String × Written)) (key : String)

/-- What must come next. -/
inductive State where
  | value (stack : List Frame)
  | itemOrEnd (stack : List Frame)
  | keyOrEnd (stack : List Frame)
  | key (members : List (String × Written)) (stack : List Frame)
  | colon (members : List (String × Written)) (key : String) (stack : List Frame)
  | commaOrEnd (done : Written) (stack : List Frame)

/-- How many containers may stand inside one another. -/
def depthLimit : Nat := 127

namespace State

def ofValue (stack : List Frame) : Token → Option State
  | .null => some (commaOrEnd .null stack)
  | .bool b => some (commaOrEnd (.bool b) stack)
  | .string s => some (commaOrEnd (.string s) stack)
  | .number l => some (commaOrEnd (.number l) stack)
  | .openArray => if stack.length < depthLimit then some (itemOrEnd stack) else none
  | .openObject => if stack.length < depthLimit then some (keyOrEnd stack) else none
  | _ => none

def step : State → Token → Option State
  | value stack, t => ofValue stack t
  | itemOrEnd stack, .closeArray => some (commaOrEnd (.array []) stack)
  | itemOrEnd stack, t => ofValue (.array [] :: stack) t
  | keyOrEnd stack, .closeObject => some (commaOrEnd (.object []) stack)
  | keyOrEnd stack, .string k => some (colon [] k stack)
  | key members stack, .string k => some (colon members k stack)
  | colon members k stack, .colon => some (value (.object members k :: stack))
  | commaOrEnd v (.array items :: stack), .comma => some (value (.array (v :: items) :: stack))
  | commaOrEnd v (.array items :: stack), .closeArray =>
    some (commaOrEnd (.array (v :: items).reverse) stack)
  | commaOrEnd v (.object members k :: stack), .comma => some (key ((k, v) :: members) stack)
  | commaOrEnd v (.object members k :: stack), .closeObject =>
    some (commaOrEnd (.object ((k, v) :: members).reverse) stack)
  | _, _ => none

end State

def ofTokens? (tokens : List Token) : Option Written :=
  match tokens.foldlM State.step (.value []) with
  | some (.commaOrEnd v []) => some v
  | _ => none

def read? (text : String) : Option Written := (Token.all? text.toList).bind ofTokens?

end Written
end SensorThresholds
