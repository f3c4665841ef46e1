import SensorThresholds.Proofs.IntegerDisplay
import SensorThresholds.Proofs.ThresholdOrder

/-!
Which numbers are unit modifiers. A document gets past its modifier exactly if that is a number whose
value is an integer of 32 bits, and then its attributes have that integer, in whichever way it is
written. Integers can be compared with the limits as they are, and other numbers as doubles: no
rounding on the way lets a number in or keeps one out.
-/

namespace SensorThresholds
namespace Double

/-- The order without the doubles that are equal. -/
instance : LT Double := ⟨fun a b => a ≤ b ∧ ¬ b ≤ a⟩

theorem lt_iff_of_value? {a b : Double} {x y : ℚ} (left : a.value? = some x)
    (right : b.value? = some y) : a < b ↔ x < y := by
  show a ≤ b ∧ ¬ b ≤ a ↔ x < y
  rw [le_iff_of_value? left right, le_iff_of_value? right left, lt_iff_le_not_ge]

/-- Something is left when the double is cut off. -/
def HasFraction (d : Double) : Prop := ∀ k, d.truncate? = some k → d.value? ≠ some (k : ℚ)

theorem hasFraction_iff {d : Double} : d.HasFraction ↔ ∀ k : ℤ, d.value? ≠ some (k : ℚ) := by
  constructor
  · intro fraction k exact
    refine fraction k ?_ exact
    rw [truncate?_eq, exact, Option.map_some, towardZero_intCast]
  · exact fun fraction k _ => fraction k

/-- The least and the greatest integer of 32 bits, as doubles. -/
def leastWord : Double := ofInt (-2 ^ 31)

def greatestWord : Double := ofInt (2 ^ 31 - 1)

theorem value?_leastWord : leastWord.value? = some ((-2 ^ 31 : ℤ) : ℚ) := value?_ofInt (by decide)

theorem value?_greatestWord : greatestWord.value? = some ((2 ^ 31 - 1 : ℤ) : ℚ) :=
  value?_ofInt (by decide)

/-- The double cut off, where past the limits of 32 bits the nearer limit stands for it, and zero for
what is no number. -/
def toWord : Double → ℤ
  | nan => 0
  | infinite true => -2 ^ 31
  | infinite false => 2 ^ 31 - 1
  | finite s m => max (-2 ^ 31) (min (if s then -m.wholePart else m.wholePart) (2 ^ 31 - 1))

theorem toWord_of_value? {d : Double} {k : ℤ} (exact : d.value? = some (k : ℚ))
    (least : -2 ^ 31 ≤ k) (most : k ≤ 2 ^ 31 - 1) : d.toWord = k := by
  have cut : d.truncate? = some k := by
    rw [truncate?_eq, exact, Option.map_some, towardZero_intCast]
  obtain ⟨s, m, rfl, -⟩ := exists_finite_of_value? exact
  have same : (if s then -m.wholePart else m.wholePart : ℤ) = k := by
    cases s <;> exact Option.some.inj cut
  rw [toWord, same]
  omega

/-- An integer that does not fit 64 bits with a sign goes to a double that does not either. -/
theorem le_abs_of_ofInt {n : ℤ} {x : ℚ} (large : 2 ^ 63 ≤ n.natAbs)
    (exact : (ofInt n).value? = some x) : 2 ^ 63 ≤ |x| := by
  rw [ofInt_eq] at exact
  cases rounded : Magnitude.nearest? (n.natAbs : ℚ) with
  | none =>
      rw [rounded] at exact
      cases exact
  | some m =>
      obtain ⟨p, power⟩ : ∃ p : Magnitude, p.value = 2 ^ 63 := by
        simpa using Magnitude.exists_value_eq (c := 1) (e := 63) (by norm_num) (by norm_num)
          (by norm_num)
      have bound : p.value ≤ (n.natAbs : ℚ) := by
        rw [power]
        exact_mod_cast Nat.cast_le (α := ℚ) |>.mpr large
      have above := Magnitude.le_nearest? (Nat.cast_nonneg _) rounded bound
      rw [rounded, ofRounded, value?_finite, Option.some.injEq] at exact
      rwa [← exact, abs_signed _ m.value_nonneg, ← power]

end Double

namespace Number

/-- A number that is held as an integer of 64 bits with a sign. -/
def IsSigned (n : Number) : Prop := ∃ k : ℤ, n = integer k ∧ -2 ^ 63 ≤ k ∧ k < 2 ^ 63

/-- What comes of a number that is checked in the way in which it is held. An integer of 64 bits with
a sign is compared with the limits of 32 bits. Any other number is taken as the nearest double, which
must have no fraction and lie within the limits, and is cut off. -/
inductive Narrows : Number → Option ℤ → Prop where
  | integer {k : ℤ} (signed : (integer k).IsSigned) (least : -2 ^ 31 ≤ k) (most : k < 2 ^ 31) :
      Narrows (integer k) (some k)
  | wide {k : ℤ} (signed : (integer k).IsSigned) (past : k < -2 ^ 31 ∨ 2 ^ 31 ≤ k) :
      Narrows (integer k) none
  | double {n : Number} (other : ¬ n.IsSigned) (whole : ¬ n.toDouble.HasFraction)
      (least : ¬ n.toDouble < Double.leastWord) (most : ¬ Double.greatestWord < n.toDouble) :
      Narrows n (some n.toDouble.toWord)
  | outside {n : Number} (other : ¬ n.IsSigned) (out : n.toDouble.HasFraction ∨
        n.toDouble < Double.leastWord ∨ Double.greatestWord < n.toDouble) :
      Narrows n none

theorem exists_narrows (n : Number) : ∃ result, n.Narrows result := by
  by_cases signed : n.IsSigned
  · obtain ⟨k, rfl, bounds⟩ := id signed
    by_cases fits : -2 ^ 31 ≤ k ∧ k < 2 ^ 31
    · exact ⟨_, .integer signed fits.1 fits.2⟩
    · exact ⟨_, .wide signed (by omega)⟩
  · by_cases out : n.toDouble.HasFraction ∨
        n.toDouble < Double.leastWord ∨ Double.greatestWord < n.toDouble
    · exact ⟨_, .outside signed out⟩
    · simp only [not_or] at out
      exact ⟨_, .double signed out.1 out.2.1 out.2.2⟩

theorem far_of_not_isSigned {k : ℤ} (other : ¬ (integer k).IsSigned) :
    2 ^ 63 ≤ k.natAbs ∧ (k < -2 ^ 31 ∨ 2 ^ 31 ≤ k) := by
  have bounds : ¬ (-2 ^ 63 ≤ k ∧ k < 2 ^ 63) := fun bounds => other ⟨k, rfl, bounds⟩
  omega

/-- A double within the limits is only that of a number of the same value. -/
theorem value?_of_toDouble {n : Number} {k : ℤ} (other : ¬ n.IsSigned)
    (exact : n.toDouble.value? = some (k : ℚ)) (least : -2 ^ 31 ≤ k) (most : k ≤ 2 ^ 31 - 1) :
    n.value? = some (k : ℚ) := by
  cases n with
  | float d => exact exact
  | integer j =>
      have far := Double.le_abs_of_ofInt (far_of_not_isSigned other).1 exact
      have large : 2 ^ 63 ≤ |k| := by exact_mod_cast far
      rw [Int.abs_eq_natAbs] at large
      omega

/-- In each of the ways exactly the integers of 32 bits come out. -/
theorem Narrows.eq_some_iff {n : Number} {result : Option ℤ} (narrows : n.Narrows result) (m : ℤ) :
    result = some m ↔ n.value? = some (m : ℚ) ∧ -2 ^ 31 ≤ m ∧ m < 2 ^ 31 := by
  cases narrows with
  | @integer k signed least most =>
      have value : (Number.integer k).value? = some (m : ℚ) ↔ k = m := by simp [value?]
      rw [value, Option.some.injEq]
      constructor
      · rintro rfl
        exact ⟨rfl, least, most⟩
      · exact And.left
  | @wide k signed past =>
      refine iff_of_false (by simp) ?_
      rintro ⟨exact, least, most⟩
      obtain rfl : k = m := by exact_mod_cast Option.some.inj exact
      omega
  | double other whole least most =>
      obtain ⟨k, exact⟩ : ∃ k : ℤ, n.toDouble.value? = some (k : ℚ) := by
        simpa only [Double.hasFraction_iff, not_forall, not_not] using whole
      rw [Double.lt_iff_of_value? exact Double.value?_leastWord, Int.cast_lt, not_lt] at least
      rw [Double.lt_iff_of_value? Double.value?_greatestWord exact, Int.cast_lt, not_lt] at most
      rw [Double.toWord_of_value? exact least most, value?_of_toDouble other exact least most,
        Option.some.injEq, Option.some.injEq, Int.cast_inj]
      constructor
      · rintro rfl
        exact ⟨rfl, least, by omega⟩
      · exact And.left
  | outside other out =>
      refine iff_of_false (by simp) ?_
      rintro ⟨held, least, most⟩
      have exact : n.toDouble.value? = some (m : ℚ) := value?_toDouble held (by omega)
      rcases out with fraction | below | above
      · exact Double.hasFraction_iff.mp fraction m exact
      · rw [Double.lt_iff_of_value? exact Double.value?_leastWord, Int.cast_lt] at below
        omega
      · rw [Double.lt_iff_of_value? Double.value?_greatestWord exact, Int.cast_lt] at above
        omega

theorem narrows_iff {n : Number} {result : Option ℤ} :
    n.Narrows result ↔ Attributes.modifier? (.number n) = result := by
  have read {other : Option ℤ} (narrows : n.Narrows other) :
      Attributes.modifier? (.number n) = other := by
    ext m
    rw [Attributes.modifier?_eq_some_iff, narrows.eq_some_iff]
    simp only [Json.number.injEq, exists_eq_left']
  constructor
  · exact read
  · rintro rfl
    obtain ⟨other, narrows⟩ := n.exists_narrows
    exact read narrows ▸ narrows

end Number

/-- The failure is about the unit modifier. -/
def Failure.IsOfModifier : Failure → Prop
  | noUnitModifier | invalidUnitModifier _ => True
  | _ => False

theorem Json.get?_of_field {ν : Type} {tree value : Json ν} {key : String}
    (present : tree.field key = .present value) : tree.get? key = some value := by
  unfold field at present
  split at present
  · cases present
  · cases present
  · next _ held =>
      obtain rfl := Field.present.inj present
      exact held

namespace Attributes

variable {document other : Document} {m : ℤ} {failure : Failure}

theorem readModifier_error (none : ¬ ∃ m, HasModifier document m) :
    ∃ failure, readModifier document = .error failure ∧ failure.IsOfModifier := by
  unfold readModifier
  split
  · exact ⟨_, rfl, trivial⟩
  · exact ⟨_, rfl, trivial⟩
  · next value present =>
      have held := Json.get?_of_field present
      split
      · next m found => exact absurd ⟨m, (hasModifier_iff held m).mpr found⟩ none
      · exact ⟨_, rfl, trivial⟩

theorem not_isOfModifier_readThreshold {t : Threshold}
    (failed : readThreshold document t = .error failure) : ¬ failure.IsOfModifier := by
  unfold readThreshold at failed
  split at failed <;> cases failed <;> exact id

theorem ofDocument_of_hasModifier (modifier : HasModifier document m) :
    ofDocument document = (PerThreshold.tabulate? (readThreshold document)).map
      fun raw => ⟨m, (document.get? "ReadingUnits").bind Json.text?, raw⟩ := by
  rw [ofDocument, readModifier_ok modifier]
  cases PerThreshold.tabulate? (readThreshold document) <;> rfl

/-- Past the modifier only a threshold can fail. -/
theorem ofDocument_cases (modifier : HasModifier document m) :
    (∃ attributes, ofDocument document = .ok attributes ∧ attributes.modifier = m) ∨
      ∃ failure, ofDocument document = .error failure ∧ ¬ failure.IsOfModifier := by
  rw [ofDocument_of_hasModifier modifier]
  cases read : PerThreshold.tabulate? (readThreshold document) with
  | ok raw => exact .inl ⟨_, rfl, rfl⟩
  | error failure =>
      obtain ⟨t, failed⟩ := PerThreshold.exists_of_tabulate?_error read
      exact .inr ⟨failure, rfl, not_isOfModifier_readThreshold failed⟩

theorem not_isOfModifier_ofDocument (modifier : HasModifier document m)
    (failed : ofDocument document = .error failure) : ¬ failure.IsOfModifier := by
  rcases ofDocument_cases modifier with ⟨_, made, -⟩ | ⟨_, failed', other⟩
  · cases failed.symm.trans made
  · obtain rfl := Except.error.inj (failed.symm.trans failed')
    exact other

theorem ofDocument_error_of_not_hasModifier (none : ¬ ∃ m, HasModifier document m) :
    ∃ failure, ofDocument document = .error failure ∧ failure.IsOfModifier := by
  obtain ⟨failure, failed, about⟩ := readModifier_error none
  refine ⟨failure, ?_, about⟩
  rw [ofDocument, failed]
  rfl

theorem hasModifier_of_ofDocument {attributes : Attributes}
    (made : ofDocument document = .ok attributes) : HasModifier document attributes.modifier := by
  by_cases valid : ∃ m, HasModifier document m
  · obtain ⟨m, modifier⟩ := valid
    rcases ofDocument_cases modifier with ⟨_, made', rfl⟩ | ⟨_, failed, -⟩
    · obtain rfl := Except.ok.inj (made.symm.trans made')
      exact modifier
    · cases made.symm.trans failed
  · obtain ⟨failure, failed, -⟩ := ofDocument_error_of_not_hasModifier valid
    cases made.symm.trans failed

/-- Two documents that differ only in how their modifier is written have the same attributes. -/
theorem ofDocument_of_same_modifier (modifier : HasModifier document m)
    (modifier' : HasModifier other m)
    (same : ∀ key, key ≠ "UnitModifier" → other.get? key = document.get? key) :
    ofDocument other = ofDocument document := by
  have threshold (t : Threshold) : other.get? t.key = document.get? t.key :=
    same t.key (by cases t <;> decide)
  have read : readThreshold other = readThreshold document := by
    funext t
    simp only [readThreshold, Json.field, threshold t]
  rw [ofDocument_of_hasModifier modifier, ofDocument_of_hasModifier modifier', read,
    same "ReadingUnits" (by decide)]

/-- A modifier counts by its value. A document gets past it exactly if it is a number whose value is
an integer of 32 bits, which the attributes then have. It comes out of the number in whichever way
that is held, and each such integer can also be held as a double: two documents that differ in that
alone make the same of the rest. -/
theorem modifier_by_value (document : Document) :
    ((∀ failure, ofDocument document = .error failure → ¬ failure.IsOfModifier) ↔
        ∃ m, HasModifier document m) ∧
      (∀ attributes, ofDocument document = .ok attributes →
        HasModifier document attributes.modifier) ∧
      (∀ n, document.get? "UnitModifier" = some (.number n) →
        ∀ m, HasModifier document m ↔ n.Narrows (some m)) ∧
      (∀ m : ℤ, -2 ^ 31 ≤ m → m < 2 ^ 31 → ∃ d : Double, d.value? = some (m : ℚ)) ∧
      ∀ (other : Document) (m : ℤ), HasModifier document m → HasModifier other m →
        (∀ key, key ≠ "UnitModifier" → other.get? key = document.get? key) →
          ofDocument other = ofDocument document := by
  refine ⟨⟨?_, ?_⟩, fun _ => hasModifier_of_ofDocument, ?_, ?_,
    fun _ _ => ofDocument_of_same_modifier⟩
  · intro past
    by_contra none
    obtain ⟨failure, failed, about⟩ := ofDocument_error_of_not_hasModifier none
    exact past failure failed about
  · rintro ⟨m, modifier⟩ failure failed
    exact not_isOfModifier_ofDocument modifier failed
  · intro n held m
    rw [hasModifier_iff held, Number.narrows_iff]
  · intro m least most
    exact ⟨.ofInt m, Double.value?_ofInt (by omega)⟩

example : [-2 ^ 31 - 1, -2 ^ 31, 2 ^ 31 - 1, 2 ^ 31].map
    (fun k => modifier? (.number (.float (.ofInt k)))) =
      [none, some (-2 ^ 31), some (2 ^ 31 - 1), none] := by
  decide +kernel

end Attributes
end SensorThresholds
