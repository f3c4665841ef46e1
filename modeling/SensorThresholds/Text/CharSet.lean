/-!
Sets of characters as sorted lists of code point intervals, ends included.
-/

namespace SensorThresholds

abbrev CharSet := List (Nat × Nat)

def CharSet.contains (set : CharSet) (c : Char) : Bool :=
  set.any fun (low, high) => low ≤ c.toNat && c.toNat ≤ high

end SensorThresholds
