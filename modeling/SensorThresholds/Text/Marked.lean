import SensorThresholds.Text.Utf16
import SensorThresholds.Text.Utf8

/-!
Texts in bytes that may start with a mark. The mark says how they are encoded, and is no part of
them; without one they are UTF-8.
-/

namespace SensorThresholds

def decodeMarked : List UInt8 → String
  | 0xEF :: 0xBB :: 0xBF :: rest => Utf8.decode rest
  | 0xFF :: 0xFE :: rest => Utf16.decode .little rest
  | 0xFE :: 0xFF :: rest => Utf16.decode .big rest
  | bytes => Utf8.decode bytes

theorem Utf8.encode_ofList (cs : List Char) :
    encode (.ofList cs) = cs.flatMap String.utf8EncodeChar := by
  rw [encode_eq, String.toUTF8, String.toByteArray_ofList, List.utf8Encode]
  simp

/-- No character is encoded with the first byte of a mark, but the one that has the mark of UTF-8
for its encoding. -/
theorem Utf8.exists_utf8EncodeChar (c : Char) :
    ∃ first rest, String.utf8EncodeChar c = first :: rest ∧ first.toNat < 0xFE ∧
      (first = 0xEF → ∃ x y, rest = [x, y] ∧ (x = 0xBB → y = 0xBF → c = '\uFEFF')) := by
  have range : c.toNat < 0x110000 := by
    rcases c.valid with low | high
    · exact Nat.lt_trans low (by decide)
    · exact high.2
  simp only [String.utf8EncodeChar, Char.toNat_val]
  split
  · refine ⟨_, _, rfl, ?_, ?_⟩ <;> simp [← UInt8.toNat_inj] <;> omega
  · split
    · refine ⟨_, _, rfl, ?_, ?_⟩ <;> simp [← UInt8.toNat_inj] <;> omega
    · split
      · refine ⟨_, _, rfl, ?_, ?_⟩
        · simp
          omega
        · intro top
          refine ⟨_, _, rfl, ?_⟩
          intro middle low
          rw [← UInt8.toNat_inj] at top middle low
          apply Char.toNat_inj.mp
          simp at top middle low ⊢
          omega
      · refine ⟨_, _, rfl, ?_, ?_⟩ <;> simp [← UInt8.toNat_inj] <;> omega

/-- A text that does not start with the mark is read as UTF-8. -/
theorem decodeMarked_encode {text : String} (unmarked : text.toList.head? ≠ some '\uFEFF') :
    decodeMarked (Utf8.encode text) = Utf8.decode (Utf8.encode text) := by
  rw [← String.ofList_toList (s := text), Utf8.encode_ofList]
  generalize text.toList = cs at unmarked
  cases cs with
  | nil => rfl
  | cons c cs =>
      obtain ⟨first, rest, bytes, bound, mark⟩ := Utf8.exists_utf8EncodeChar c
      rw [List.flatMap_cons, bytes, List.cons_append]
      unfold decodeMarked
      split
      · next same =>
          obtain ⟨top, following⟩ := List.cons.inj same
          obtain ⟨x, y, rfl, only⟩ := mark top
          obtain ⟨middle, low⟩ := List.cons.inj following
          exact absurd (congrArg some (only middle (List.cons.inj low).1)) unmarked
      · next same =>
          rw [(List.cons.inj same).1] at bound
          exact absurd bound (by decide)
      · next same =>
          rw [(List.cons.inj same).1] at bound
          exact absurd bound (by decide)
      · rfl

end SensorThresholds
