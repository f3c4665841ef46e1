/-!
Base64 with padding: three bytes make four characters, and the last group is filled up with `=`.
-/

namespace SensorThresholds.Base64

def alphabet : List Char :=
  "ABCDEFGHIJKLMNOPQRSTUVWXYZabcdefghijklmnopqrstuvwxyz0123456789+/".toList

def digit (n : Nat) : Char := alphabet.getD (n % 64) '='

/-- The four digits of a group of 24 bits. -/
def group (bits : Nat) : List Char :=
  [digit (bits / Nat.pow 2 18), digit (bits / Nat.pow 2 12), digit (bits / Nat.pow 2 6), digit bits]

def encode : List UInt8 → List Char
  | [] => []
  | [a] => (group (a.toNat * Nat.pow 2 16)).take 2 ++ ['=', '=']
  | [a, b] => (group (a.toNat * Nat.pow 2 16 + b.toNat * Nat.pow 2 8)).take 3 ++ ['=']
  | a :: b :: c :: rest =>
    group (a.toNat * Nat.pow 2 16 + b.toNat * Nat.pow 2 8 + c.toNat) ++ encode rest

end SensorThresholds.Base64
