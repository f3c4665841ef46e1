import SensorThresholds.Text.AsciiForm
import SensorThresholds.Text.Numeral
import SensorThresholds.Text.Utf8

/-!
The names of hosts. A name in brackets is an address of sixteen bytes, in pieces of two. A name
whose last part is a number is an address of four bytes. Its numbers may be written in base eight,
ten or sixteen, and there may be fewer than four of them, as the last one fills the bytes that are
left. Of other names only those in ASCII are read.
-/

namespace SensorThresholds

/-- The parts of a text between the characters that split it. -/
def splitWhere (splits : Char → Bool) : List Char → List (List Char)
  | [] => [[]]
  | c :: rest =>
    match splitWhere splits rest with
    | [] => [[c]]
    | first :: others =>
      if splits c then [] :: first :: others else (c :: first) :: others

namespace Ipv6

/-- The value of up to four hexadecimal digits. -/
def piece? (digits : List Char) : Option Nat :=
  if 0 < digits.length ∧ digits.length ≤ 4 then numeral? 16 digits else none

/-- The value of a byte in base ten, without leading zeros. -/
def byte? : List Char → Option Nat
  | [] | '0' :: _ :: _ => none
  | digits => (numeral? 10 digits).filter (· < 256)

/-- The two pieces that four bytes make. -/
def fourBytes? (text : List Char) : Option (List Nat) := do
  match ← (splitWhere (· = '.') text).mapM byte? with
  | [a, b, c, d] => some [a * 256 + b, c * 256 + d]
  | _ => none

/-- The pieces at the end of an address, of which the last two may be written as four bytes. -/
def lastPieces? : List (List Char) → Option (List Nat)
  | [] => some []
  | [last] => ((piece? last).map fun piece => [piece]).or (fourBytes? last)
  | text :: rest => do return (← piece? text) :: (← lastPieces? rest)

/-- The texts between colons, of which an empty text has none. -/
def texts (text : List Char) : List (List Char) :=
  if text.isEmpty then [] else splitWhere (· = ':') text

/-- What stands before the first two colons in a row, and what follows them. -/
def cut? : List Char → Option (List Char × List Char)
  | [] => none
  | ':' :: ':' :: rest => some ([], rest)
  | c :: rest => (cut? rest).map fun (before, after) => (c :: before, after)

/-- Reads the eight pieces of an address. Two colons in a row stand for pieces that are zero. -/
def pieces? (text : List Char) : Option (List Nat) :=
  match cut? text with
  | none => (lastPieces? (texts text)).filter (·.length = 8)
  | some (before, after) => do
    let first ← (texts before).mapM piece?
    let last ← lastPieces? (texts after)
    let known := first.length + last.length
    if known < 8 then some (first ++ List.replicate (8 - known) 0 ++ last) else none

/-- The number of pieces that are zero from a place on. -/
def zerosAt (pieces : List Nat) (place : Nat) : Nat :=
  ((pieces.drop place).takeWhile (· = 0)).length

/-- The place of the first among the longest stretches of zeros. -/
def longestZeros (pieces : List Nat) : Nat :=
  (List.range pieces.length).foldl
    (fun best place => if zerosAt pieces best < zerosAt pieces place then place else best) 0

def pieceTexts (pieces : List Nat) : String :=
  ":".intercalate (pieces.map fun piece => .ofList (Nat.toDigits 16 piece))

/-- The form of an address that all of its spellings share. The longest stretch of zeros is left
out, if it is of more than one piece. -/
def write (pieces : List Nat) : String :=
  let place := longestZeros pieces
  let count := zerosAt pieces place
  if 1 < count then
    pieceTexts (pieces.take place) ++ "::" ++ pieceTexts (pieces.drop (place + count))
  else pieceTexts pieces

end Ipv6

namespace Host

/-- Undoes percent escapes. A percent sign that starts none stands for itself. -/
def unescape : List Char → List UInt8
  | [] => []
  | '%' :: a :: b :: rest =>
    match numeral? 16 [a, b] with
    | some byte => byte.toUInt8 :: unescape rest
    | none => Utf8.encode "%" ++ unescape (a :: b :: rest)
  | c :: rest => Utf8.encode (.singleton c) ++ unescape rest

/-- Characters that no name has. -/
def isForbidden (c : Char) : Bool :=
  c ≤ ' ' || '\x7e' < c || "\"#%/:<>?@[\\]^\x60\x7b|\x7d".toList.contains c

/-- The parts between the stops. A stop at the end does not count. -/
def parts (name : List Char) : List (List Char) :=
  let all := splitWhere (· = '.') name
  match all.reverse with
  | [] :: first :: rest => (first :: rest).reverse
  | _ => all

/-- The number that a part is. A leading zero means base eight, and `0x` base sixteen. -/
def number? : List Char → Option Nat
  | [] => none
  | '0' :: 'x' :: digits => numeral? 16 digits
  | '0' :: digits => numeral? 8 digits
  | digits => numeral? 10 digits

def isNumber (part : List Char) : Bool :=
  (number? part).isSome || (!part.isEmpty && part.all Char.isDigit)

/-- The value of an address whose bytes above the last `left` ones have been read. -/
def combine? : Nat → List Nat → Option Nat
  | _, [] => none
  | left, [last] => if last < Nat.pow 256 left then some last else none
  | left, byte :: rest =>
    if 1 < left ∧ byte < 256 then
      (combine? (left - 1) rest).map (byte * Nat.pow 256 (left - 1) + ·)
    else none

def addressText (value : Nat) : String :=
  ".".intercalate ([value / Nat.pow 256 3, value / Nat.pow 256 2, value / 256, value].map fun n =>
    String.ofList (decimalDigits (n % 256)))

/-- A part that stands for characters beyond ASCII. -/
def isEncoded (part : List Char) : Bool := "xn--".toList.isPrefixOf part

/-- The form of a name that all of its spellings share. Parts with characters beyond ASCII, and
those that stand for such parts, are not read. -/
def canonical? (name : List Char) : Option String := do
  let name := (← Utf8.read? (unescape name)).toList.flatMap asciiForm
  if name.isEmpty || name.any isForbidden || (parts name).any isEncoded then none
  else if (parts name).getLast?.any isNumber then
    (((parts name).mapM number?).bind (combine? 4)).map addressText
  else some (.ofList name)

/-- Reads the host of an address. -/
def read? : List Char → Option String
  | '[' :: rest =>
    if rest.getLast? = some ']' then
      (Ipv6.pieces? rest.dropLast).map fun pieces => "[" ++ Ipv6.write pieces ++ "]"
    else none
  | name => canonical? name

end Host
end SensorThresholds
