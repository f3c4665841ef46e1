/-!
UTF-16 in bytes. Reading never fails: half of a pair of surrogates without the other half, and a
byte without another one, are read as one replacement character.
-/

namespace SensorThresholds.Utf16

abbrev Bytes := List UInt8

/-- Which byte of a unit comes first. -/
inductive ByteOrder where
  | little
  | big
  deriving DecidableEq, Repr

def ByteOrder.unit (order : ByteOrder) (a b : UInt8) : Nat :=
  match order with
  | little => b.toNat * 0x100 + a.toNat
  | big => a.toNat * 0x100 + b.toNat

def isHigh (unit : Nat) : Bool := 0xD800 ≤ unit && unit < 0xDC00

def isLow (unit : Nat) : Bool := 0xDC00 ≤ unit && unit < 0xE000

/-- The character of a pair of surrogates. -/
def pair (high low : Nat) : Char := .ofNat (0x10000 + (high - 0xD800) * 0x400 + (low - 0xDC00))

/-- Takes a unit that no high surrogate stands before, and keeps it if it is one itself. -/
def start (unit : Nat) : List Char × Option Nat :=
  if isHigh unit then ([], some unit)
  else if isLow unit then (['\uFFFD'], none)
  else ([.ofNat unit], none)

/-- Takes one more unit; `high` is the surrogate before it, if there is one. -/
def next (high : Option Nat) (unit : Nat) : List Char × Option Nat :=
  match high with
  | none => start unit
  | some high =>
    if isLow unit then ([pair high unit], none)
    else ('\uFFFD' :: (start unit).1, (start unit).2)

def decodeFrom (order : ByteOrder) (high : Option Nat) : Bytes → List Char
  | [] => if high.isSome then ['\uFFFD'] else []
  | [_] => ['\uFFFD']
  | a :: b :: rest =>
    (next high (order.unit a b)).1 ++ decodeFrom order (next high (order.unit a b)).2 rest

def decode (order : ByteOrder) (bytes : Bytes) : String := .ofList (decodeFrom order none bytes)

end SensorThresholds.Utf16
