import SensorThresholds.Http.Library
import SensorThresholds.Text.Base64

/-!
Documents over HTTP. A client puts the path behind its scheme and host, sends its credentials with
the request, and takes the status of the answer before it looks at the body.
-/

namespace SensorThresholds

/-- What comes back from the address that a request goes to, unless the connection is refused. -/
abbrev Peer := Url → Request → Option Answer

/-- A peer with its pages. It speaks plain HTTP only, and other addresses refuse connections. -/
structure Server where
  host : String
  port : Nat
  pages : List Page
  deriving DecidableEq, Repr

namespace Server

def accepts (s : Server) (url : Url) : Bool :=
  url.scheme == "http" && url.host == s.host && url.port == s.port

/-- Whether a status is the end of an answer. After the other ones below 200 there is more to come,
and there are none from 1000 on. -/
def isFinal (status : Nat) : Bool := status == 101 || (200 ≤ status && status < 1000)

/-- Two statuses never come with a body. -/
def bodiless (status : Nat) : Bool := status == 204 || status == 304

def answer (s : Server) (target : String) : Page :=
  let page := findPage s.pages target
  if bodiless page.status then { page with body := [], complete := true } else page

def peer (s : Server) : Peer := fun url r =>
  if s.accepts url then some (.ofPage (s.answer r.target)) else none

end Server

structure Client where
  scheme : String
  host : String
  user : String
  password : String

namespace Client

def url (c : Client) (path : String) : String := s!"{c.scheme}://{c.host}{path}"

/-- The credentials as a header: user and password around a colon, in Base64. -/
def authorization (c : Client) : String :=
  "Basic " ++ .ofList (Base64.encode (Utf8.encode s!"{c.user}:{c.password}"))

def request (c : Client) (target : String) : Request :=
  ⟨"GET", target, c.authorization, "application/json"⟩

/-- Sends a request, which is seen if it is answered. An answer that leads elsewhere is followed
there, and one that never ends is none. -/
def hop (lib : HttpLibrary) (peer : Peer) (failure : Failure) (url : Url) (r : Request)
    (follow : Onward → SourceAction Answer) : SourceAction Answer :=
  match peer url r with
  | none => Traced.fail failure
  | some answer => do
    Traced.emit (.request r)
    if Server.isFinal answer.status then
      match lib.onward? url answer with
      | none => return answer
      | some onward => follow onward
    else Traced.fail failure

/-- The answer to a request that may be followed so many times. -/
def send (lib : HttpLibrary) (peer : Peer) (failure : Failure) :
    Nat → Url → Request → SourceAction Answer
  | 0, url, r => hop lib peer failure url r fun _ => Traced.fail failure
  | hops + 1, url, r => hop lib peer failure url r fun onward =>
    send lib peer failure hops onward.url (r.onward onward)

/-- The number of times that an answer is followed. -/
def maxHops : Nat := 10

def exchange (c : Client) (lib : HttpLibrary) (peer : Peer) (failure : Failure)
    (address : String) : SourceAction Answer :=
  match lib.address? address with
  | some url => send lib peer failure maxHops url (c.request url.target)
  | none => Traced.fail failure

/-- Reads the document that an answer holds. -/
def receive (lib : HttpLibrary) (resource : Resource) (address : String) (answer : Answer) :
    SourceAction Document :=
  if isSuccess answer.status then
    match lib.text? answer with
    | some text => do
      Traced.emit
        (.debug s!"Successfully pulled {resource.name} ({text.utf8ByteSize} bytes)")
      match Document.read? text with
      | some document => return document
      | none => Traced.fail (.notJson resource address)
    | none => Traced.fail (.request resource address)
  else Traced.fail (.status resource address answer.status)

def sourceOver (c : Client) (lib : HttpLibrary) (peer : Peer) : Source := fun path resource => do
  let address := c.url path
  Traced.emit (.debug s!"GET {address}")
  let answer ← c.exchange lib peer (.request resource address) address
  receive lib resource address answer

def source (c : Client) (server : Server) : Source := c.sourceOver .plain server.peer

end Client
end SensorThresholds
