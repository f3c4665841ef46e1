import SensorThresholds.Double.Shortest
import SensorThresholds.Text.Numeral

/-!
The written forms of a double: in full without an exponent, as a reader expects a measured value,
and as a JSON number.
-/

namespace SensorThresholds

namespace Decimal

/-- All digits, with a point only where some of them are fractional. -/
def positional (d : Decimal) : List Char :=
  let digits := decimalDigits d.digits
  let places := (-d.exponent).toNat
  if places = 0 then digits ++ zeros d.exponent.toNat
  else if places < digits.length then
    digits.take (digits.length - places) ++ '.' :: digits.drop (digits.length - places)
  else '0' :: '.' :: zeros (places - digits.length) ++ digits

/-- One digit, the others as its fraction, and an exponent that always has a sign. -/
def scientific (d : Decimal) : List Char :=
  let digits := decimalDigits d.digits
  let exponent := d.exponent + digits.length - 1
  let fraction := if digits.length = 1 then [] else '.' :: digits.drop 1
  digits.take 1 ++ fraction ++ 'e' :: (if exponent < 0 then '-' else '+') ::
    decimalDigits exponent.natAbs

/-- JSON writes positionally from `1e-5` up to `1e16`, and a whole number there keeps one place. -/
def jsonNumber (d : Decimal) : List Char :=
  let point := d.exponent + (decimalDigits d.digits).length
  if d.digits = 0 then ['0', '.', '0']
  else if -5 < point ∧ point ≤ 16 then
    if 0 ≤ d.exponent then d.positional ++ ['.', '0'] else d.positional
  else d.scientific

end Decimal

namespace Double

/-- The shortest digits that read back, never with an exponent. -/
def plain : Double → String
  | nan => "NaN"
  | infinite s => .ofList (signed s ['i', 'n', 'f'])
  | finite s m => .ofList (signed s (Decimal.shortest .upper m).positional)

/-- As `plain`, but a whole number below `10 ^ 16` keeps one decimal place. -/
def measured : Double → String
  | d@(finite s m) =>
    if m.isWhole && decide (m.wholePart < Nat.pow 10 16) then
      .ofList (signed s (decimalDigits m.wholePart ++ ['.', '0']))
    else d.plain
  | d => d.plain

/-- JSON has no text for a number that is not finite. -/
def json : Double → String
  | finite s m => .ofList (signed s (Decimal.shortest .even m).jsonNumber)
  | _ => "null"

/-- The number cut off toward zero and kept within 64 bits; zero for what is not a number. -/
def wholeNumber : Double → Int
  | nan => 0
  | infinite true => -Int.pow 2 63
  | infinite false => Int.pow 2 63 - 1
  | d@(finite _ _) => max (-Int.pow 2 63) (min (d.truncate?.getD 0) (Int.pow 2 63 - 1))

end Double
end SensorThresholds
