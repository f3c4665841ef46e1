import SensorThresholds.Url.Host

/-!
Addresses of documents. Reading one splits it into the host, the port and the target of the request.
A user part, which is no part of the target, and a fragment are dropped.
-/

namespace SensorThresholds

structure Url where
  scheme : String
  host : String
  port : Nat
  target : String
  deriving DecidableEq, Repr

namespace Url

def hexUpper (n : Nat) : Char := ((Nat.toDigits 16 (n % 16)).headD '0').toUpper

def percent (byte : UInt8) : List Char :=
  ['%', hexUpper (byte.toNat / 16), hexUpper byte.toNat]

/-- Escapes a character unless it may stand as it is. -/
def escapeChar (reserved : List Char) (c : Char) : List Char :=
  if c ≤ ' ' ∨ '\x7e' < c ∨ c ∈ reserved then
    (Utf8.encode (.singleton c)).flatMap percent
  else [c]

def escapePath : List Char → List Char :=
  List.flatMap (escapeChar ['"', '<', '>', '\x60', '\x7b', '\x7d'])

def escapeQuery : List Char → List Char := List.flatMap (escapeChar ['"', '<', '>', '\x27'])

def isSlash (c : Char) : Bool := c = '/' || c = '\\'

/-- The path split at its slashes, which may lean either way. -/
def segments : List Char → List (List Char) := splitWhere isSlash

def isDot (segment : List Char) : Bool :=
  [".", "%2e"].contains (String.ofList segment).toLower

def isDoubleDot (segment : List Char) : Bool :=
  ["..", ".%2e", "%2e.", "%2e%2e"].contains (String.ofList segment).toLower

/-- Walks down the segments, the latest first; a last segment of dots leaves an empty one. -/
def resolveDots (walked : List (List Char)) : List (List Char) → List (List Char)
  | [] => walked.reverse
  | segment :: rest =>
    let last := rest.isEmpty
    if isDoubleDot segment then
      resolveDots (if last then [] :: walked.drop 1 else walked.drop 1) rest
    else if isDot segment then resolveDots (if last then [] :: walked else walked) rest
    else resolveDots (segment :: walked) rest

/-- The path as it is requested: it starts with a slash and has no dots left. -/
def requestPath (path : List Char) : List Char :=
  let parts := (segments path).drop 1
  let resolved := resolveDots [] (if parts.isEmpty then [[]] else parts)
  resolved.flatMap fun segment => '/' :: escapePath segment

def defaultPort (scheme : String) : Nat := if scheme = "https" then 443 else 80

/-- The part before the first colon that is not in brackets, and what follows it. -/
def splitHost (inBrackets : Bool) : List Char → List Char × List Char
  | [] => ([], [])
  | c :: rest =>
    if c = ':' ∧ !inBrackets then ([], c :: rest)
    else
      let (host, left) := splitHost (c = '[' || (inBrackets && c ≠ ']')) rest
      (c :: host, left)

/-- Reads what follows a host. -/
def port? (scheme : String) : List Char → Option Nat
  | [] | [':'] => some (defaultPort scheme)
  | ':' :: digits => (decimal? digits).filter (· < Nat.pow 2 16)
  | _ => none

def hostAndPort? (scheme : String) (authority : List Char) : Option (String × Nat) := do
  let (host, rest) := splitHost false authority
  return (← Host.read? host, ← port? scheme rest)

def endsAuthority (c : Char) : Bool := isSlash c || c = '?' || c = '#'

/-- Reads what follows `scheme:`. Any number of slashes may stand before the host. -/
def ofRest? (scheme : String) (rest : List Char) : Option Url :=
  let rest := rest.dropWhile isSlash
  let authority := rest.takeWhile (!endsAuthority ·)
  let address := (rest.dropWhile (!endsAuthority ·)).takeWhile (· ≠ '#')
  let path := address.takeWhile (· ≠ '?')
  let query := address.dropWhile (· ≠ '?')
  let host := (authority.reverse.takeWhile (· ≠ '@')).reverse
  (hostAndPort? scheme host).map fun (host, port) =>
    ⟨scheme, host, port, .ofList (requestPath path ++ escapeQuery query)⟩

/-- Blanks and controls around an address, and line breaks and tabs in it, do not count. -/
def clean (text : List Char) : List Char :=
  let kept := text.filter fun c => c ≠ '\t' && c ≠ '\n' && c ≠ '\r'
  (((kept.dropWhile (· ≤ ' ')).reverse).dropWhile (· ≤ ' ')).reverse

/-- The host, with the port where it is not the one of the scheme. -/
def authority (url : Url) : String :=
  if url.port = defaultPort url.scheme then url.host else s!"{url.host}:{url.port}"

/-- The number of bytes of an address without user part and fragment. -/
def size (url : Url) : Nat := s!"{url.scheme}://{url.authority}{url.target}".utf8ByteSize

/-- Reads an address. The only schemes are those of HTTP. -/
def parse? (text : String) : Option Url :=
  let cs := clean text.toList
  let scheme := String.ofList ((cs.takeWhile (· ≠ ':')).map Char.toLower)
  match cs.dropWhile (· ≠ ':') with
  | ':' :: rest => if scheme = "http" ∨ scheme = "https" then ofRest? scheme rest else none
  | _ => none

end Url
end SensorThresholds
