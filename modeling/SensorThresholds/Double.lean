/-!
Double-precision numbers as exact values. A finite double is a sign and a magnitude, and a magnitude
is a whole number of units of `2 ^ -1074`. Arithmetic is exact on units and rounds once, to the
nearest magnitude, a tie going to the even significand.
-/

namespace SensorThresholds

/-- The integer nearest to `num / den`; a half goes to the even neighbour. -/
def roundEven (num den : Nat) : Nat :=
  let quotient := num / den
  match compare (2 * (num % den)) den with
  | .lt => quotient
  | .eq => quotient + quotient % 2
  | .gt => quotient + 1

/-- The size of a finite double: `significand * 2 ^ shift` units, written in the one way that
either has a full significand or the smallest shift. -/
structure Magnitude where
  significand : Nat
  shift : Nat
  canonical : significand < Nat.pow 2 53 ∧ shift ≤ 2045 ∧ (shift = 0 ∨ Nat.pow 2 52 ≤ significand)
  deriving DecidableEq, Repr

namespace Magnitude

/-- How many units make up one. -/
def unitsPerOne : Nat := Nat.pow 2 1074

def zero : Magnitude := ⟨0, 0, by decide⟩

def units (m : Magnitude) : Nat := m.significand * Nat.pow 2 m.shift

def isZero (m : Magnitude) : Bool := m.significand == 0

def ofParts? (significand shift : Nat) : Option Magnitude :=
  if h : significand < Nat.pow 2 53 ∧ shift ≤ 2045 ∧ (shift = 0 ∨ Nat.pow 2 52 ≤ significand) then
    some ⟨significand, shift, h⟩
  else none

/-- The magnitude nearest to `num / den` units, or nothing where that is past the largest one. The
shift leaves a significand of 53 bits, which rounding can carry up to `2 ^ 53` and no further. -/
def round? (num den : Nat) : Option Magnitude :=
  let shift := (num / den).log2 - 52
  let significand := roundEven num (den * Nat.pow 2 shift)
  if significand < Nat.pow 2 53 then ofParts? significand shift
  else ofParts? (Nat.pow 2 52) (shift + 1)

/-- The whole part of the number. -/
def wholePart (m : Magnitude) : Nat := m.units / unitsPerOne

def isWhole (m : Magnitude) : Bool := m.units % unitsPerOne == 0

end Magnitude

inductive Double where
  | nan
  | infinite (negative : Bool)
  | finite (negative : Bool) (magnitude : Magnitude)
  deriving DecidableEq, Repr

namespace Double

def isFinite : Double → Bool
  | finite _ _ => true
  | _ => false

def ofRounded (negative : Bool) : Option Magnitude → Double
  | some m => finite negative m
  | none => infinite negative

/-- The nearest double to an integer. -/
def ofInt (n : Int) : Double :=
  ofRounded (decide (n < 0)) (Magnitude.round? (n.natAbs * Magnitude.unitsPerOne) 1)

def neg : Double → Double
  | nan => nan
  | infinite s => infinite (!s)
  | finite s m => finite (!s) m

instance : Neg Double := ⟨neg⟩

def mul : Double → Double → Double
  | nan, _ => nan
  | _, nan => nan
  | infinite s, infinite t => infinite (s != t)
  | infinite s, finite t m => if m.isZero then nan else infinite (s != t)
  | finite s m, infinite t => if m.isZero then nan else infinite (s != t)
  | finite s m, finite t n =>
    ofRounded (s != t) (Magnitude.round? (m.units * n.units) Magnitude.unitsPerOne)

instance : Mul Double := ⟨mul⟩

def div : Double → Double → Double
  | nan, _ => nan
  | _, nan => nan
  | infinite _, infinite _ => nan
  | infinite s, finite t _ => infinite (s != t)
  | finite s _, infinite t => finite (s != t) Magnitude.zero
  | finite s m, finite t n =>
    if n.isZero then
      if m.isZero then nan else infinite (s != t)
    else ofRounded (s != t) (Magnitude.round? (m.units * Magnitude.unitsPerOne) n.units)

instance : Div Double := ⟨div⟩

/-- Multiplies `acc` by `base ^ n` by repeated squaring, rounding at every step. -/
def mulPower (acc base : Double) (n : Nat) : Double :=
  let acc := if n % 2 = 1 then acc * base else acc
  if n / 2 = 0 then acc else mulPower acc (base * base) (n / 2)
termination_by n
decreasing_by omega

/-- `10 ^ n` by repeated squaring: exact as long as the squares are, and rounded after that. -/
def tenToThe (n : Nat) : Double := mulPower (ofInt 1) (ofInt 10) n

/-- The number cut off toward zero; only a finite double has one. -/
def truncate? : Double → Option Int
  | finite true m => some (-(m.wholePart : Int))
  | finite false m => some m.wholePart
  | _ => none

/-- The integer that a finite double is exactly, if it is one. -/
def toInt? : Double → Option Int
  | d@(finite _ m) => if m.isWhole then d.truncate? else none
  | _ => none

/-- Reads the interchange format: a sign bit, eleven bits of exponent, 52 bits of fraction. -/
def ofBits (bits : UInt64) : Double :=
  let word := bits.toNat
  let negative := word / Nat.pow 2 63 == 1
  let exponent := word / Nat.pow 2 52 % Nat.pow 2 11
  if exponent = 0 then
    finite negative
      ⟨word % Nat.pow 2 52, 0, by simp only [Nat.pow_eq]; omega, Nat.zero_le _, .inl rfl⟩
  else if _ : exponent < 2047 then
    finite negative
      ⟨Nat.pow 2 52 + word % Nat.pow 2 52, exponent - 1, by simp only [Nat.pow_eq]; omega,
        by omega, .inr (Nat.le_add_right _ _)⟩
  else if word % Nat.pow 2 52 = 0 then infinite negative
  else nan

def toBits : Double → UInt64
  | nan => 0x7ff8000000000000
  | infinite s => signBit s + 0x7ff0000000000000
  | finite s m =>
    if m.significand < Nat.pow 2 52 then signBit s + .ofNat m.significand
    else signBit s + .ofNat ((m.shift + 1) * Nat.pow 2 52 + (m.significand - Nat.pow 2 52))
where
  signBit (negative : Bool) : UInt64 := if negative then 0x8000000000000000 else 0

end Double
end SensorThresholds
