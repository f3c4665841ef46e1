import SensorThresholds.Text.Base64
import Mathlib.Algebra.Group.Nat.Defs

/-!
Reading Base64 back. What is read from the text of some bytes is these bytes, however many of them
there are in the last group.
-/

namespace SensorThresholds.Base64

/-- The six bits that a character stands for. -/
def value? (c : Char) : Option Nat := alphabet.findIdx? (· == c)

/-- The bytes that a text stands for: three for every four characters, and fewer where the last ones
are filled up. -/
def decode? : List Char → Option (List UInt8)
  | [] => some []
  | [a, b, '=', '='] => do
    let bits := (← value? a) * 64 + (← value? b)
    return [.ofNat (bits / 2 ^ 4)]
  | [a, b, c, '='] => do
    let bits := ((← value? a) * 64 + (← value? b)) * 64 + (← value? c)
    return [.ofNat (bits / 2 ^ 10), .ofNat (bits / 2 ^ 2)]
  | a :: b :: c :: d :: rest => do
    let bits := (((← value? a) * 64 + (← value? b)) * 64 + (← value? c)) * 64 + (← value? d)
    let others ← decode? rest
    return .ofNat (bits / 2 ^ 16) :: .ofNat (bits / 2 ^ 8) :: .ofNat bits :: others
  | _ => none

theorem value?_digit (n : Nat) : value? (digit n) = some (n % 64) := by
  have table : ∀ k < 64, value? (alphabet.getD k '=') = some k := by decide +kernel
  exact table _ (Nat.mod_lt n (by decide))

theorem digit_ne_pad (n : Nat) : digit n ≠ '=' := by
  intro pad
  have none : value? '=' = none := by decide +kernel
  rw [← pad, value?_digit] at none
  cases none

theorem decode?_one (k l : Nat) :
    decode? [digit k, digit l, '=', '='] = some [.ofNat ((k % 64 * 64 + l % 64) / 2 ^ 4)] := by
  simp [decode?, value?_digit]

theorem decode?_two (k l m : Nat) :
    decode? [digit k, digit l, digit m, '='] =
      let bits := (k % 64 * 64 + l % 64) * 64 + m % 64
      some [.ofNat (bits / 2 ^ 10), .ofNat (bits / 2 ^ 2)] := by
  simp [decode?, value?_digit, digit_ne_pad]

theorem decode?_group (k l m n : Nat) (rest : List Char) :
    decode? (digit k :: digit l :: digit m :: digit n :: rest) =
      let bits := ((k % 64 * 64 + l % 64) * 64 + m % 64) * 64 + n % 64
      (decode? rest).map fun others =>
        .ofNat (bits / 2 ^ 16) :: .ofNat (bits / 2 ^ 8) :: .ofNat bits :: others := by
  cases read : decode? rest <;> simp [decode?, value?_digit, digit_ne_pad, read]

theorem ofNat_eq_of_mod {n : Nat} (byte : UInt8) (same : n % 256 = byte.toNat) :
    UInt8.ofNat n = byte := by
  rw [← UInt8.toNat_inj, UInt8.toNat_ofNat']
  exact same

/-- All bytes are read back, one group after the other. -/
theorem decode?_encode (bytes : List UInt8) : decode? (encode bytes) = some bytes := by
  induction bytes using encode.induct with
  | case1 => rfl
  | case2 a =>
      have size := a.toNat_lt
      show decode? [digit _, digit _, '=', '='] = _
      rw [decode?_one]
      simp only [Nat.pow_eq, Nat.reducePow]
      rw [ofNat_eq_of_mod a (by omega)]
  | case3 a b =>
      have size := a.toNat_lt
      have size' := b.toNat_lt
      show decode? [digit _, digit _, digit _, '='] = _
      rw [decode?_two]
      simp only [Nat.pow_eq, Nat.reducePow]
      rw [ofNat_eq_of_mod a (by omega), ofNat_eq_of_mod b (by omega)]
  | case4 a b c rest ih =>
      have size := a.toNat_lt
      have size' := b.toNat_lt
      have size'' := c.toNat_lt
      show decode? (digit _ :: digit _ :: digit _ :: digit _ :: encode rest) = _
      rw [decode?_group, ih]
      simp only [Nat.pow_eq, Nat.reducePow, Option.map_some]
      rw [ofNat_eq_of_mod a (by omega), ofNat_eq_of_mod b (by omega),
        ofNat_eq_of_mod c (by omega)]

end SensorThresholds.Base64
