import SensorThresholds.Event
import SensorThresholds.Text.Utf8
import SensorThresholds.Traced

/-!
Where documents come from. A source is asked by path; what it does meanwhile is in its trace.
-/

namespace SensorThresholds

inductive SourceEvent where
  | request (request : Request)
  | debug (text : String)
  deriving DecidableEq, Repr

def SourceEvent.toEvent : SourceEvent → Event
  | request r => .request r
  | debug text => .log (.plain .source .debug text)

abbrev SourceAction := Traced SourceEvent Failure Unit

def Source : Type := String → Resource → SourceAction Document

/-- A document at a path, as its owner holds it. An incomplete body breaks off on its way. -/
structure Page where
  path : String
  status : Nat
  body : List UInt8
  complete : Bool
  deriving DecidableEq, Repr

def isSuccess (status : Nat) : Bool := 200 ≤ status && status < 300

def Page.notFound (path : String) : Page := ⟨path, 404, [], true⟩

/-- The first page at a path. -/
def findPage (pages : List Page) (path : String) : Page :=
  (pages.find? (·.path == path)).getD (.notFound path)

/-- Reads the body of a success, and takes any other status for a failure. -/
def readPage (resource : Resource) (url : String) (page : Page) (text : String) :
    Except Failure Document :=
  if isSuccess page.status then
    match Document.read? text with
    | some document => pure document
    | none => throw (.notJson resource url)
  else throw (.status resource url page.status)

/-- A table in memory, known by the address in front of its paths. -/
def Source.ofTable (address : String) (pages : List Page) : Source := fun path resource =>
  let page := findPage pages path
  .ofExcept (readPage resource (address ++ path) page (Utf8.decode page.body))

end SensorThresholds
