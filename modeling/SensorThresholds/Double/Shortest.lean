import SensorThresholds.Double

/-!
The fewest decimal digits that read back as a given double. The decimals that read back are those
in an interval about the double, closed when its significand is even. Grids of powers of ten are
tried from coarse to fine, and on each only the two points next to the double can matter.
-/

namespace SensorThresholds

/-- The number `digits * 10 ^ exponent`. -/
structure Decimal where
  digits : Nat
  exponent : Int
  deriving DecidableEq, Repr

/-- Which of two equally near decimals is taken: the upper one, or the one that ends evenly. -/
inductive Tie where
  | upper
  | even
  deriving DecidableEq, Repr

namespace Magnitude

/-- The lower end of the interval that rounds to `m`, in quarters of a unit. Below a power of two
the neighbours are twice as dense. -/
def lowerQuarters (m : Magnitude) : Nat :=
  if m.significand = Nat.pow 2 52 ∧ m.shift ≠ 0 then 4 * m.units - Nat.pow 2 m.shift
  else 4 * m.units - 2 * Nat.pow 2 m.shift

def upperQuarters (m : Magnitude) : Nat := 4 * m.units + 2 * Nat.pow 2 m.shift

/-- Whether the ends of the interval round to `m` too. -/
def closed (m : Magnitude) : Bool := m.significand % 2 == 0

end Magnitude

namespace Decimal

/-- The decimal in quarters of a unit, as a numerator and a denominator. -/
def quarters (d : Decimal) : Nat × Nat :=
  (d.digits * Nat.pow 10 d.exponent.toNat * (4 * Magnitude.unitsPerOne),
    Nat.pow 10 (-d.exponent).toNat)

/-- Whether the double nearest to `d` has magnitude `m`. -/
def readsAs (d : Decimal) (m : Magnitude) : Bool :=
  let (num, den) := d.quarters
  let low := m.lowerQuarters * den
  let high := m.upperQuarters * den
  decide (low < num ∧ num < high) || (m.closed && (num == low || num == high))

/-- Whether `below`, the last grid point up to `m`, is nearer to `m` than the point after it. -/
def prefersBelow (tie : Tie) (below above : Decimal) (m : Magnitude) : Bool :=
  let (lowNum, den) := below.quarters
  let (highNum, _) := above.quarters
  let value := 4 * m.units * den
  match compare (value - lowNum) (highNum - value) with
  | .lt => true
  | .gt => false
  | .eq => tie == .even && below.digits % 2 == 0

/-- The last point of the grid `10 ^ exponent` up to `m`. -/
def lastUpTo (m : Magnitude) (exponent : Int) : Decimal :=
  let grid := quarters ⟨1, exponent⟩
  ⟨4 * m.units * grid.2 / grid.1, exponent⟩

/-- The point after `d` on its grid. -/
def next (d : Decimal) : Decimal := ⟨d.digits + 1, d.exponent⟩

/-- The point of the grid `10 ^ exponent` that reads as `m`, the nearer one if there are two. -/
def onGrid? (tie : Tie) (m : Magnitude) (exponent : Int) : Option Decimal :=
  let below := lastUpTo m exponent
  let above := below.next
  if below.readsAs m then
    if above.readsAs m && !prefersBelow tie below above m then some above else some below
  else if above.readsAs m then some above
  else none

/-- A grid whose step is past `m`. -/
def coarsest (m : Magnitude) : Int :=
  ((m.units.log2 : Int) + 1 - 1074) * 30103 / 100000 + 1

/-- The decimal of fewest digits that reads as `m`; seventeen digits always do, and the grids tried
are enough for nineteen. -/
def shortest (tie : Tie) (m : Magnitude) : Decimal :=
  if m.isZero then ⟨0, 0⟩
  else
    let grids := (List.range 20).map fun (n : Nat) => coarsest m - n
    (grids.findSome? (onGrid? tie m)).getD ⟨0, 0⟩

end Decimal
end SensorThresholds
