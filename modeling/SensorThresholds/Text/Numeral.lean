/-!
Numerals. Those in base ten are written without leading zeros and without a sign on zero.
-/

namespace SensorThresholds

def zeros (n : Nat) : List Char := List.replicate n '0'

def decimalDigits (n : Nat) : List Char := Nat.toDigits 10 n

def signed (negative : Bool) (text : List Char) : List Char :=
  if negative then '-' :: text else text

def integerText (n : Int) : List Char := signed (decide (n < 0)) (decimalDigits n.natAbs)

/-- The number that digits denote, where no digits denote zero. -/
def decimal? (digits : List Char) : Option Nat :=
  if digits.all Char.isDigit then
    some (digits.foldl (fun n c => n * 10 + (c.toNat - '0'.toNat)) 0)
  else none

/-- The value of a digit in base sixteen. -/
def hexValue? (c : Char) : Option Nat :=
  if '0' ≤ c ∧ c ≤ '9' then some (c.toNat - '0'.toNat)
  else if 'a' ≤ c ∧ c ≤ 'f' then some (c.toNat - 'a'.toNat + 10)
  else if 'A' ≤ c ∧ c ≤ 'F' then some (c.toNat - 'A'.toNat + 10)
  else none

/-- The number that digits denote in a base of sixteen at most, where no digits denote zero. -/
def numeral? (base : Nat) (digits : List Char) : Option Nat :=
  digits.foldlM (fun n c =>
    (hexValue? c).bind fun d => if d < base then some (n * base + d) else none) 0

end SensorThresholds
