import SensorThresholds.Json.Text
import SensorThresholds.Json.Token
import SensorThresholds.Proofs.DecimalText
import SensorThresholds.Proofs.ShortestDecimal

/-!
Numbers in JSON text. A number is read up to the first character that cannot continue it, and a
finite double is written so that it is the nearest one to the number that is read.
-/

namespace SensorThresholds

namespace Literal

/-- The power of ten that is written. -/
def written (l : Literal) : ℤ :=
  match l.exponent with
  | none => 0
  | some (negative, digits) => if negative then -(ofDigits digits) else ofDigits digits

/-- The number that a literal denotes, but for its sign. -/
def magnitude (l : Literal) : ℚ :=
  ofDigits (l.whole ++ l.fraction) * 10 ^ (l.written - l.fraction.length)

/-- The double nearest to the number that a literal denotes, of two the one that is even
(`Magnitude.nearest?_closest`), with the sign of the literal. -/
def nearest (l : Literal) : Double := .ofRounded l.negative (Magnitude.nearest? l.magnitude)

/-- The integer that a literal without point and exponent is. -/
def integer? (l : Literal) : Option ℤ :=
  if l.fraction = [] ∧ l.exponent = none then
    some (if l.negative then -ofDigits l.whole else ofDigits l.whole)
  else none

/-- The literal is the integer, or the double is the nearest one to it. -/
def Denotes (l : Literal) : Number → Prop
  | .integer n => l.integer? = some n
  | .float d => l.nearest = d

end Literal

/-- The digits of a number as text. An empty fraction means that there is no point. -/
structure NumberText where
  whole : List Char
  fraction : List Char
  exponent : Option (Bool × List Char)

namespace NumberText

def fractionChars (t : NumberText) : List Char :=
  if t.fraction = [] then [] else '.' :: t.fraction

def exponentChars (t : NumberText) : List Char :=
  match t.exponent with
  | none => []
  | some (negative, digits) => 'e' :: (if negative then '-' else '+') :: digits

def chars (t : NumberText) : List Char := t.whole ++ t.fractionChars ++ t.exponentChars

def literal (t : NumberText) (negative : Bool) : Literal where
  negative := negative
  whole := t.whole.map Token.digitValue
  fraction := t.fraction.map Token.digitValue
  exponent := t.exponent.map fun (negative, digits) => (negative, digits.map Token.digitValue)

/-- What the grammar of JSON asks of a number. -/
structure Valid (t : NumberText) : Prop where
  whole_digits : t.whole.all Char.isDigit = true
  whole_nonempty : t.whole ≠ []
  whole_canonical : t.whole.head? = some '0' → t.whole = ['0']
  fraction_digits : t.fraction.all Char.isDigit = true
  exponent_digits : ∀ negative digits, t.exponent = some (negative, digits) →
    digits.all Char.isDigit = true ∧ digits ≠ []

/-- The text goes on with something that cannot be part of a number. -/
def Ends (rest : List Char) : Prop :=
  ∀ c, rest.head? = some c → c.isDigit = false ∧ c ≠ '.' ∧ c ≠ 'e' ∧ c ≠ 'E'

theorem digits_append {cs rest : List Char} (digits : cs.all Char.isDigit = true)
    (ends : ∀ c, rest.head? = some c → c.isDigit = false) :
    Token.digits (cs ++ rest) = (cs.map Token.digitValue, rest) := by
  have none : rest.takeWhile Char.isDigit = [] ∧ rest.dropWhile Char.isDigit = rest := by
    cases rest with
    | nil => exact ⟨rfl, rfl⟩
    | cons c rest => simp [ends c rfl]
  rw [List.all_eq_true] at digits
  rw [Token.digits, List.takeWhile_append_of_pos digits, List.dropWhile_append_of_pos digits,
    none.1, none.2, List.append_nil]

theorem digits?_append {cs rest : List Char} (digits : cs.all Char.isDigit = true)
    (nonempty : cs ≠ []) (ends : ∀ c, rest.head? = some c → c.isDigit = false) :
    Token.digits? (cs ++ rest) = some (cs.map Token.digitValue, rest) := by
  rw [Token.digits?, digits_append digits ends, if_neg (by simpa using nonempty)]

theorem eq_zero_of_digitValue {c : Char} (digit : c.isDigit = true)
    (zero : Token.digitValue c = 0) : c = '0' := by
  simp only [Char.isDigit, Bool.and_eq_true, decide_eq_true_eq, ge_iff_le, UInt32.le_iff_toNat_le]
    at digit
  apply Char.toNat_inj.mp
  exact Nat.le_antisymm (Nat.le_of_sub_eq_zero zero) digit.1

variable {t : NumberText} {rest : List Char}

theorem head_exponentChars (ends : Ends rest) (c : Char)
    (first : (t.exponentChars ++ rest).head? = some c) : c.isDigit = false ∧ c ≠ '.' := by
  unfold exponentChars at first
  split at first
  · exact ⟨(ends c first).1, (ends c first).2.1⟩
  · obtain rfl := Option.some.inj first
    decide

theorem head_fractionChars (ends : Ends rest) (c : Char)
    (first : (t.fractionChars ++ (t.exponentChars ++ rest)).head? = some c) :
    c.isDigit = false := by
  unfold fractionChars at first
  split at first
  · exact (head_exponentChars ends c first).1
  · obtain rfl := Option.some.inj first
    decide

theorem exponent?_append (valid : t.Valid) (ends : Ends rest) :
    Token.exponent? (t.exponentChars ++ rest) =
      some (t.exponent.map fun (negative, digits) => (negative, digits.map Token.digitValue),
        rest) := by
  unfold exponentChars
  cases written : t.exponent with
  | none =>
      cases rest with
      | nil => rfl
      | cons c rest =>
          obtain ⟨-, -, lower, upper⟩ := ends c rfl
          show Token.exponent? (c :: rest) = _
          rw [Token.exponent?, if_neg (by simp [lower, upper])]
          rfl
  | some parts =>
      obtain ⟨negative, digits⟩ := parts
      obtain ⟨decimal, nonempty⟩ := valid.exponent_digits negative digits written
      have read := digits?_append decimal nonempty fun c first => (ends c first).1
      show Token.exponent? ('e' :: (if negative then '-' else '+') :: (digits ++ rest)) = _
      rw [Token.exponent?, if_pos (.inl rfl)]
      cases negative with
      | true =>
          show (Token.digits? (digits ++ rest)).map _ = _
          rw [read]
          rfl
      | false =>
          show (Token.digits? (digits ++ rest)).map _ = _
          rw [read]
          rfl

theorem fraction?_append (valid : t.Valid) (ends : Ends rest) :
    Token.fraction? (t.fractionChars ++ (t.exponentChars ++ rest)) =
      some (t.fraction.map Token.digitValue, t.exponentChars ++ rest) := by
  have after := head_exponentChars (t := t) ends
  unfold fractionChars
  by_cases none : t.fraction = []
  · rw [if_pos none, none, List.nil_append, List.map_nil]
    cases first : t.exponentChars ++ rest with
    | nil => rfl
    | cons c left =>
        have other := (after c (by rw [first]; rfl)).2
        rw [Token.fraction?]
        rintro _ ⟨⟩
        exact other rfl
  · rw [if_neg none]
    show Token.digits? (t.fraction ++ (t.exponentChars ++ rest)) = _
    exact digits?_append valid.fraction_digits none fun c first => (after c first).1

theorem wholePart?_append (valid : t.Valid) (ends : Ends rest) :
    Token.wholePart? (t.whole ++ (t.fractionChars ++ (t.exponentChars ++ rest))) =
      some (t.whole.map Token.digitValue, t.fractionChars ++ (t.exponentChars ++ rest)) := by
  have read := digits?_append valid.whole_digits valid.whole_nonempty
    (head_fractionChars (t := t) ends)
  have canonical : ¬ ((t.whole.map Token.digitValue).head? = some 0 ∧
      1 < (t.whole.map Token.digitValue).length) := by
    rintro ⟨zero, long⟩
    rw [List.head?_map, Option.map_eq_some_iff] at zero
    obtain ⟨c, first, none⟩ := zero
    have digit := List.all_eq_true.mp valid.whole_digits c (List.mem_of_head? first)
    obtain rfl := eq_zero_of_digitValue digit none
    rw [valid.whole_canonical first] at long
    exact absurd long (by decide)
  rw [Token.wholePart?, read]
  exact if_neg canonical

/-- A number is read as its digits, and the reader stops behind it. -/
theorem literal?_append (valid : t.Valid) (ends : Ends rest) (negative : Bool) :
    Token.literal? (signed negative t.chars ++ rest) = some (t.literal negative, rest) := by
  have sign : Token.sign (signed negative t.chars ++ rest) =
      (negative, t.whole ++ (t.fractionChars ++ (t.exponentChars ++ rest))) := by
    cases negative with
    | true =>
        show (true, t.chars ++ rest) = _
        rw [chars, List.append_assoc, List.append_assoc]
    | false =>
        show Token.sign (t.chars ++ rest) = _
        rw [chars, List.append_assoc, List.append_assoc]
        cases digits : t.whole with
        | nil => exact absurd digits valid.whole_nonempty
        | cons c left =>
            have digit := List.all_eq_true.mp valid.whole_digits c (by rw [digits]; simp)
            rw [List.cons_append, Token.sign]
            rintro _ ⟨⟩
            exact absurd digit (by decide)
  simp only [Token.literal?, sign, wholePart?_append valid ends, Option.bind_eq_bind,
    Option.bind_some, fraction?_append valid ends, exponent?_append valid ends]
  rfl

theorem ofDigits_map {cs : List Char} {n : ℕ} (read : decimal? cs = some n) :
    Literal.ofDigits (cs.map Token.digitValue) = n := by
  rw [decimal?_eq_some_iff, Nat.ofDigitChars_eq_foldl] at read
  rw [Literal.ofDigits, List.foldl_map, ← read.2]
  simp only [Nat.mul_comm 10]
  rfl

theorem magnitude_literal {n : ℕ} (read : decimal? (t.whole ++ t.fraction) = some n)
    (negative : Bool) :
    (t.literal negative).magnitude =
      n * 10 ^ ((t.literal false).written - t.fraction.length) := by
  have digits := ofDigits_map read
  rw [List.map_append] at digits
  rw [Literal.magnitude, literal, digits, List.length_map]
  rfl

/-- A text is the number `x` in the grammar of JSON. -/
def Writes (chars : List Char) (x : ℚ) : Prop :=
  ∃ t : NumberText, t.Valid ∧ chars = t.chars ∧ ∀ negative, (t.literal negative).magnitude = x

end NumberText

namespace Pointed

/-- The digits of a numeral with a point, as a number in JSON text. -/
def numberText (p : Pointed) : NumberText := ⟨p.whole, p.fraction, none⟩

theorem writes (p : Pointed) (nonempty : p.fraction ≠ []) :
    NumberText.Writes p.text (p.digits * 10 ^ (-p.fraction.length : ℤ)) := by
  refine ⟨p.numberText, ?_, ?_, fun negative => ?_⟩
  · exact
      { whole_digits := (decimal?_eq_some_iff.mp p.whole_reads).1
        whole_nonempty := p.whole_nonempty
        whole_canonical := p.whole_canonical
        fraction_digits := (decimal?_eq_some_iff.mp p.fraction_reads).1
        exponent_digits := by rintro _ _ ⟨⟩ }
  · rw [NumberText.chars, NumberText.fractionChars, NumberText.exponentChars, numberText,
      if_neg nonempty, List.append_nil, text]
  · rw [NumberText.magnitude_literal (decimal?_append_eq_some_iff.mpr
      ⟨_, _, p.whole_reads, p.fraction_reads, rfl⟩)]
    show (p.digits : ℚ) * 10 ^ ((0 : ℤ) - p.fraction.length) = _
    rw [zero_sub]

end Pointed

namespace Decimal

theorem writes_positional {d : Decimal} (positive : 0 < d.digits) :
    NumberText.Writes (if 0 ≤ d.exponent then d.positional ++ ['.', '0'] else d.positional)
      d.value := by
  by_cases nonneg : 0 ≤ d.exponent
  · have places : (-d.exponent).toNat = 0 := by omega
    have text : d.positional ++ ['.', '0'] =
        (Pointed.ofWhole (d.digits * 10 ^ d.exponent.toNat)).text := by
      rw [Pointed.text_ofWhole, decimalDigits_mul_tenPow positive, positional,
        if_pos places]
    have number : d.value =
        (Pointed.ofWhole (d.digits * 10 ^ d.exponent.toNat)).digits * 10 ^ (-1 : ℤ) := by
      obtain ⟨k, exponent⟩ := Int.eq_ofNat_of_zero_le nonneg
      rw [value, exponent, Int.toNat_natCast, zpow_natCast]
      simp [Pointed.ofWhole, Pointed.digits]
    rw [if_pos nonneg, text, number]
    exact (Pointed.ofWhole _).writes (List.cons_ne_nil _ _)
  · obtain ⟨p, text, digits, length, -⟩ := exists_pointed positive (Int.not_le.mp nonneg)
    have nonempty : p.fraction ≠ [] := by
      intro none
      rw [none, List.length_nil] at length
      omega
    rw [if_neg nonneg, text, value, ← digits, ← neg_eq_iff_eq_neg.mpr length]
    exact p.writes nonempty

/-- The exponent behind the first digit. -/
def leadingExponent (d : Decimal) : ℤ := d.exponent + (decimalDigits d.digits).length - 1

/-- One digit, and the others as its fraction. -/
def scientificText (d : Decimal) : NumberText where
  whole := (decimalDigits d.digits).take 1
  fraction := (decimalDigits d.digits).drop 1
  exponent := some (decide (d.leadingExponent < 0), decimalDigits d.leadingExponent.natAbs)

theorem scientificText_valid {d : Decimal} (positive : 0 < d.digits) : d.scientificText.Valid where
  whole_digits := List.all_eq_true.mpr fun c member =>
    List.all_eq_true.mp (all_isDigit_decimalDigits _) c (List.mem_of_mem_take member)
  whole_nonempty := by simp [scientificText, decimalDigits, Nat.toDigits_ne_nil]
  whole_canonical zero := absurd zero (head?_take_decimalDigits positive)
  fraction_digits := List.all_eq_true.mpr fun c member =>
    List.all_eq_true.mp (all_isDigit_decimalDigits _) c (List.mem_of_mem_drop member)
  exponent_digits := by
    rintro _ _ ⟨⟩
    exact ⟨all_isDigit_decimalDigits _, Nat.toDigits_ne_nil⟩

theorem scientific_eq (d : Decimal) : d.scientific = d.scientificText.chars := by
  have first : 0 < (decimalDigits d.digits).length := Nat.length_toDigits_pos
  have alone : (decimalDigits d.digits).drop 1 = [] ↔ (decimalDigits d.digits).length = 1 := by
    rw [List.drop_eq_nil_iff]
    omega
  simp only [NumberText.chars, NumberText.fractionChars, NumberText.exponentChars, scientificText,
    alone, decide_eq_true_eq]
  rfl

theorem written_scientificText (d : Decimal) :
    (d.scientificText.literal false).written = d.leadingExponent := by
  have digits := NumberText.ofDigits_map (decimal?_decimalDigits d.leadingExponent.natAbs)
  simp only [Literal.written, NumberText.literal, scientificText, Option.map_some, digits,
    decide_eq_true_eq]
  split <;> omega

theorem writes_scientific {d : Decimal} (positive : 0 < d.digits) :
    NumberText.Writes d.scientific d.value := by
  refine ⟨d.scientificText, scientificText_valid positive, d.scientific_eq, fun negative => ?_⟩
  have digits : decimal? (d.scientificText.whole ++ d.scientificText.fraction) = some d.digits := by
    rw [scientificText, List.take_append_drop]
    exact decimal?_decimalDigits d.digits
  have first : 0 < (decimalDigits d.digits).length := Nat.length_toDigits_pos
  rw [NumberText.magnitude_literal digits, written_scientificText, value, scientificText,
    List.length_drop, leadingExponent]
  congr 2
  omega

/-- The JSON text of a decimal is a number, and it is the decimal. -/
theorem writes_jsonNumber (d : Decimal) : NumberText.Writes d.jsonNumber d.value := by
  unfold jsonNumber
  dsimp only
  by_cases zero : d.digits = 0
  · have none : d.value = (Pointed.ofWhole 0).digits * 10 ^ (-1 : ℤ) := by
      rw [value, zero]
      simp [Pointed.ofWhole, Pointed.digits]
    rw [if_pos zero, none]
    exact (Pointed.ofWhole 0).writes (List.cons_ne_nil _ _)
  · rw [if_neg zero]
    split
    · exact writes_positional (Nat.pos_of_ne_zero zero)
    · exact writes_scientific (Nat.pos_of_ne_zero zero)

end Decimal

namespace Number

/-- The literal is what is read where the number is written. -/
def Reads (n : Number) (l : Literal) : Prop :=
  ∀ rest, NumberText.Ends rest → Token.literal? (n.json.toList ++ rest) = some (l, rest)

/-- An integer is written as its digits alone. -/
def wholeText (n : ℕ) : NumberText := ⟨decimalDigits n, [], none⟩

theorem wholeText_valid (n : ℕ) : (wholeText n).Valid where
  whole_digits := all_isDigit_decimalDigits n
  whole_nonempty := Nat.toDigits_ne_nil
  whole_canonical := (Pointed.ofWhole n).whole_canonical
  fraction_digits := rfl
  exponent_digits := by rintro _ _ ⟨⟩

def integerLiteral (n : ℤ) : Literal := (wholeText n.natAbs).literal (decide (n < 0))

theorem integer_reads (n : ℤ) : (integer n).Reads (integerLiteral n) := by
  intro rest ends
  have text : (integer n).json.toList =
      signed (decide (n < 0)) (wholeText n.natAbs).chars := by
    rw [json, String.toList_ofList, integerText]
    simp [NumberText.chars, NumberText.fractionChars, NumberText.exponentChars, wholeText]
  rw [text]
  exact NumberText.literal?_append (wholeText_valid _) ends _

theorem integer?_integerLiteral (n : ℤ) : (integerLiteral n).integer? = some n := by
  have digits : Literal.ofDigits (integerLiteral n).whole = n.natAbs :=
    NumberText.ofDigits_map (decimal?_decimalDigits n.natAbs)
  have sign : (integerLiteral n).negative = decide (n < 0) := rfl
  rw [Literal.integer?, if_pos ⟨rfl, rfl⟩, digits, sign]
  congr 1
  simp only [decide_eq_true_eq]
  split <;> omega

/-- A finite double is written so that it is the double nearest to what is read. -/
theorem float_reads {d : Double} (finite : d.isFinite = true) :
    ∃ l, (float d).Reads l ∧ l.nearest = d := by
  cases d with
  | finite negative m =>
      obtain ⟨t, valid, chars, magnitude⟩ := (Decimal.shortest .even m).writes_jsonNumber
      have exact := Decimal.readsAs_iff.mp (Decimal.shortest_readsAs .even m)
      refine ⟨t.literal negative, fun rest ends => ?_, ?_⟩
      · rw [json, Double.json, String.toList_ofList, chars]
        exact NumberText.literal?_append valid ends negative
      · rw [Literal.nearest, magnitude,
          (Magnitude.nearest?_eq_some_iff (Decimal.value_nonneg _)).mpr exact]
        rfl
  | _ => cases finite

/-- Neither an infinity nor no number at all. -/
def isFinite : Number → Bool
  | integer _ => true
  | float d => d.isFinite

/-- What is written for a number denotes it. -/
theorem exists_literal {n : Number} (finite : n.isFinite = true) :
    ∃ l, n.Reads l ∧ l.Denotes n := by
  cases n with
  | integer n => exact ⟨integerLiteral n, integer_reads n, integer?_integerLiteral n⟩
  | float d => exact float_reads finite

end Number
end SensorThresholds
