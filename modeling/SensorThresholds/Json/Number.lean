import SensorThresholds.Double

/-!
The numbers of a document. A literal without point and exponent that fits 64 bits is an integer;
every other one is a double, computed from at most 64 bits of its digits and one power of ten.
-/

namespace SensorThresholds

inductive Number where
  | integer (value : Int)
  | float (value : Double)
  deriving DecidableEq, Repr

namespace Number

/-- The number as a double, an integer going to the nearest one. -/
def toDouble : Number → Double
  | integer n => .ofInt n
  | float d => d

/-- The integer that the number is exactly, if it is one. -/
def toInt? : Number → Option Int
  | integer n => some n
  | float d => d.toInt?

end Number

/-- A number as it is written. An empty fraction means that there is no point. -/
structure Literal where
  negative : Bool
  whole : List Nat
  fraction : List Nat
  exponent : Option (Bool × List Nat)
  deriving DecidableEq, Repr

namespace Literal

def ofDigits (digits : List Nat) : Nat := digits.foldl (fun n d => n * 10 + d) 0

/-- Adds digits to a significand while it fits 64 bits, and counts the digits that are left. -/
def gather (significand : Nat) : List Nat → Nat × Nat
  | [] => (significand, 0)
  | d :: ds =>
    if significand * 10 + d < Nat.pow 2 64 then gather (significand * 10 + d) ds
    else (significand, ds.length + 1)

/-- The digits that fit 64 bits, with the power of ten that the point and the digits left out of the
whole part call for. -/
def leading (l : Literal) : Nat × Int :=
  let (whole, dropped) := gather 0 l.whole
  let (significand, skipped) := gather whole l.fraction
  (significand, (dropped : Int) - (l.fraction.length - skipped : Nat))

/-- `value * 10 ^ exponent` with tabulated powers up to `10 ^ 308`; nothing where it overflows. -/
def timesTenTo? (value : Double) (exponent : Int) : Option Double :=
  if exponent.natAbs ≤ 308 then
    let power := Double.ofInt (Int.pow 10 exponent.natAbs)
    let scaled := if 0 ≤ exponent then value * power else value / power
    if scaled.isFinite then some scaled else none
  else if value = .finite false .zero then some value
  else if 0 ≤ exponent then none
  else timesTenTo? (value / Double.ofInt (Int.pow 10 308)) (exponent + 308)
termination_by exponent.natAbs
decreasing_by omega

/-- An exponent is a 32-bit integer: sums stop at its limits, and one that is written beyond them
makes a number that is zero or past every double. -/
def float? (l : Literal) : Option Double :=
  let (significand, exponent) := l.leading
  match l.exponent with
  | none => timesTenTo? (.ofInt significand) exponent
  | some (negative, digits) =>
    let written := ofDigits digits
    if written < Nat.pow 2 31 then
      let total := if negative then exponent - written else exponent + written
      timesTenTo? (.ofInt significand) (max (-Int.pow 2 31) (min total (Int.pow 2 31 - 1)))
    else if negative ∨ significand = 0 then some (.finite false .zero)
    else none

/-- The number that a literal denotes; nothing where it is too large for a double. -/
def number? (l : Literal) : Option Number :=
  let value := ofDigits l.whole
  let plain := l.fraction.isEmpty && l.exponent.isNone
  if plain ∧ ¬ l.negative ∧ value < Nat.pow 2 64 then some (.integer value)
  else if plain ∧ l.negative ∧ 0 < value ∧ value ≤ Nat.pow 2 63 then some (.integer (-value))
  else l.float?.map fun d => .float (if l.negative then -d else d)

end Literal
end SensorThresholds
