import SensorThresholds.Source
import SensorThresholds.Text.Marked
import SensorThresholds.Url

/-!
What is left to the library that speaks HTTP: whether there is a client at all, which texts are
addresses, which answers are followed to another address, and what is in a body that is packed or in
another character set.
-/

namespace SensorThresholds

/-- What comes back for a request: a page, and what its head says of it, that is where it leads to,
how the body is packed, and in which character set the body is. -/
structure Answer extends Page where
  location : Option String
  encoding : Option String
  charset : Option String
  deriving DecidableEq, Repr

def Answer.ofPage (page : Page) : Answer := ⟨page, none, none, none⟩

/-- The address that an answer is followed to, and which headers go along. -/
structure Onward where
  url : Url
  credentials : Bool
  contentType : Bool
  deriving DecidableEq, Repr

/-- The request that is sent on. A header that does not go along is empty. -/
def Request.onward (r : Request) (onward : Onward) : Request :=
  { r with
    target := onward.url.target
    authorization := if onward.credentials then r.authorization else ""
    contentType := if onward.contentType then r.contentType else "" }

structure HttpLibrary where
  /-- Why there is no client, which is to check certificates or not, and to wait for some seconds. -/
  refusal? : Bool → Nat → Option String
  address? : String → Option Url
  /-- Where an answer that comes from an address is followed to. -/
  onward? : Url → Answer → Option Onward
  /-- What is in a body that is packed in some way, unless it is not well packed. -/
  unpack? : String → List UInt8 → Option (List UInt8)
  /-- The text of a body in some character set. -/
  read : String → List UInt8 → String

namespace HttpLibrary

/-- The bytes of an answer, if they are all there and well packed. -/
def content? (lib : HttpLibrary) (answer : Answer) : Option (List UInt8) :=
  if answer.complete then
    match answer.encoding with
    | none => some answer.body
    | some encoding => lib.unpack? encoding answer.body
  else none

/-- The text of some bytes. Where no character set is said, their mark says how to read them. -/
def textOf (lib : HttpLibrary) (charset : Option String) (bytes : List UInt8) : String :=
  match charset with
  | none => decodeMarked bytes
  | some charset => lib.read charset bytes

def text? (lib : HttpLibrary) (answer : Answer) : Option String :=
  (lib.content? answer).map (lib.textOf answer.charset)

/-- The number of bytes that an address may have. -/
def maxSize : Nat := 65534

/-- A library for answers that are pages and nothing else, and lead nowhere. -/
def plain : HttpLibrary where
  refusal? _ _ := none
  address? text := (Url.parse? text).filter (·.size ≤ maxSize)
  onward? _ _ := none
  unpack? _ _ := none
  read _ := decodeMarked

end HttpLibrary
end SensorThresholds
