import SensorThresholds.Proofs.LowerCase
import SensorThresholds.Text.Marked
import Mathlib.Algebra.Group.Nat.Defs

/-!
What is read from bytes as UTF-8. A character's encoding is read as the character; a byte that no
encoding starts with, and an encoding as far as it goes before it breaks off, are read as one
replacement character each. Every sequence of bytes is read in exactly one way, and an encoded text
as the text.
-/

namespace SensorThresholds.Utf8

/-- The bytes are the start of a character's encoding, or all of it. -/
def Begins (bytes : Bytes) : Prop := ∃ c, bytes <+: String.utf8EncodeChar c

/-- What is read as one character of bytes that go on with `rest`: as many bytes as are the start of
a character's encoding, but one byte at least. -/
structure Piece (part rest : Bytes) (c : Char) : Prop where
  ne_nil : part ≠ []
  begins : 1 < part.length → Begins part
  longest : ∀ byte, rest.head? = some byte → ¬ Begins (part ++ [byte])
  read : String.utf8EncodeChar c = part ∨ c = '\uFFFD' ∧ ∀ d, String.utf8EncodeChar d ≠ part

/-- The characters that are read from bytes, piece by piece. -/
inductive Repairs : Bytes → List Char → Prop where
  | nil : Repairs [] []
  | cons {part rest : Bytes} {c : Char} {cs : List Char} (piece : Piece part rest c)
      (more : Repairs rest cs) : Repairs (part ++ rest) (c :: cs)

/-- The bytes of the last `6 * k` bits of a code point. -/
def continuation (n : Nat) : Nat → Bytes
  | 0 => []
  | k + 1 => .ofNat (0x80 + n / 64 ^ k % 64) :: continuation n k

theorem length_continuation (n k : Nat) : (continuation n k).length = k := by
  induction k with
  | zero => rfl
  | succ k ih => rw [continuation, List.length_cons, ih]

/-- The first byte of a code point's encoding, and how many more there are. -/
def Leads (n first more : Nat) : Prop :=
  n < 0x80 ∧ first = n ∧ more = 0 ∨
    0x80 ≤ n ∧ n < 0x800 ∧ first = 0xC0 + n / 64 ∧ more = 1 ∨
    0x800 ≤ n ∧ n < 0x10000 ∧ first = 0xE0 + n / 4096 ∧ more = 2 ∨
    0x10000 ≤ n ∧ n < 0x110000 ∧ first = 0xF0 + n / 262144 ∧ more = 3

theorem exists_leads (c : Char) :
    ∃ first more, Leads c.toNat first more ∧
      String.utf8EncodeChar c = .ofNat first :: continuation c.toNat more := by
  have range : c.toNat < 0x110000 := by
    rcases c.valid with low | high
    · exact Nat.lt_trans low (by decide)
    · exact high.2
  unfold Leads
  simp only [String.utf8EncodeChar, Char.toNat_val]
  split
  · exact ⟨_, 0, .inl ⟨by omega, rfl, rfl⟩, rfl⟩
  · split
    · refine ⟨_, 1, .inr (.inl ⟨by omega, by omega, rfl, rfl⟩), ?_⟩
      simp [continuation, ← UInt8.toNat_inj]
      omega
    · split
      · refine ⟨_, 2, .inr (.inr (.inl ⟨by omega, by omega, rfl, rfl⟩)), ?_⟩
        simp [continuation, ← UInt8.toNat_inj]
        omega
      · refine ⟨_, 3, .inr (.inr (.inr ⟨by omega, by omega, rfl, rfl⟩)), ?_⟩
        simp [continuation, ← UInt8.toNat_inj]
        omega

theorem Leads.toNat_ofNat {n first more : Nat} (leads : Leads n first more) :
    (UInt8.ofNat first).toNat = first := by
  rw [UInt8.toNat_ofNat_of_lt']
  unfold Leads at leads
  show first < 256
  omega

theorem exists_leads_of_begun {byte : UInt8} {c : Char}
    (begun : [byte] <+: String.utf8EncodeChar c) : ∃ more, Leads c.toNat byte.toNat more := by
  obtain ⟨first, more, leads, encoded⟩ := exists_leads c
  rw [encoded, List.cons_prefix_cons] at begun
  rw [begun.1, leads.toNat_ofNat]
  exact ⟨more, leads⟩

theorem Begins.of_append {first last : Bytes} : Begins (first ++ last) → Begins first := by
  rintro ⟨c, begun⟩
  exact ⟨c, (List.prefix_append first last).trans begun⟩

theorem utf8EncodeChar_injective {c d : Char}
    (same : String.utf8EncodeChar c = String.utf8EncodeChar d) : c = d := by
  have texts : encode (.ofList [c]) = encode (.ofList [d]) := by
    simp only [encode_ofList, List.flatMap_singleton, same]
  simpa using encode_injective texts

/-- No encoding is the start of another one. -/
theorem eq_of_encoded_prefix {c d : Char}
    (start : String.utf8EncodeChar c <+: String.utf8EncodeChar d) : c = d := by
  obtain ⟨first, more, leads, encoded⟩ := exists_leads c
  obtain ⟨first', more', leads', encoded'⟩ := exists_leads d
  apply utf8EncodeChar_injective
  apply start.eq_of_length
  rw [encoded, encoded', List.cons_prefix_cons] at start
  have firsts : first = first' := by rw [← leads.toNat_ofNat, start.1, leads'.toNat_ofNat]
  unfold Leads at leads leads'
  obtain rfl : more = more' := by omega
  rw [encoded, encoded', List.length_cons, List.length_cons, length_continuation,
    length_continuation]

/-- The character of a code point can be the one that is being read. -/
def Pending.Awaits (p : Pending) (n : Nat) : Prop :=
  n / 64 ^ p.missing = p.value ∧
    p.low ≤ 0x80 + n / 64 ^ (p.missing - 1) % 64 ∧ 0x80 + n / 64 ^ (p.missing - 1) % 64 ≤ p.high

/-- What is kept once a byte has come that fits. -/
def Pending.fed (p : Pending) (byte : Nat) : Pending :=
  ⟨p.missing - 1, p.value * 0x40 + (byte - 0x80), 0x80, 0xBF⟩

/-- What a character that is being read is known by: the characters it can be are those that start
with its bytes, and the bytes that may follow are a byte of one of them each. -/
structure Pending.Holds (p : Pending) (part : Bytes) : Prop where
  ne_nil : part ≠ []
  owed : 0 < p.missing
  interval : 0x80 ≤ p.low ∧ p.low ≤ p.high ∧ p.high ≤ 0xBF
  valid : ∀ n, p.Awaits n → n.isValidChar
  encoded : ∀ c : Char, p.Awaits c.toNat →
    String.utf8EncodeChar c = part ++ continuation c.toNat p.missing
  begun : ∀ c : Char, part <+: String.utf8EncodeChar c → p.Awaits c.toNat

variable {p : Pending} {part : Bytes} {byte : UInt8}

theorem Pending.next_of_fits (owed : 0 < p.missing) {b : Nat} (fits : p.low ≤ b ∧ b ≤ p.high) :
    p.next b = if p.missing = 1 then ([.ofNat (p.fed b).value], idle) else ([], p.fed b) := by
  rw [next, if_neg (Nat.ne_of_gt owed), if_pos fits]
  rfl

/-- One more byte leaves the code points that have it next. -/
theorem Pending.awaits_fed_iff {b n : Nat} (owed : 0 < p.missing) (least : 0x80 ≤ b)
    (most : b ≤ 0xBF) :
    (p.fed b).Awaits n ↔
      n / 64 ^ p.missing = p.value ∧ 0x80 + n / 64 ^ (p.missing - 1) % 64 = b := by
  obtain ⟨k, missing⟩ : ∃ k, p.missing = k + 1 := ⟨p.missing - 1, by omega⟩
  simp only [Awaits, fed, missing, Nat.add_sub_cancel, Nat.pow_succ, ← Nat.div_div_eq_div_mul]
  omega

theorem continuation_of_pos (n : Nat) {k : Nat} (positive : 0 < k) :
    continuation n k = .ofNat (0x80 + n / 64 ^ (k - 1) % 64) :: continuation n (k - 1) := by
  obtain ⟨j, rfl⟩ : ∃ j, k = j + 1 := ⟨k - 1, by omega⟩
  rfl

theorem toNat_continuation (n k : Nat) :
    (UInt8.ofNat (0x80 + n / 64 ^ k % 64)).toNat = 0x80 + n / 64 ^ k % 64 := by
  rw [UInt8.toNat_ofNat']
  omega

namespace Pending.Holds

/-- The byte that a character which is being read has next. -/
theorem byte_eq (holds : p.Holds part) {c : Char}
    (begun : part ++ [byte] <+: String.utf8EncodeChar c) :
    p.Awaits c.toNat ∧ byte.toNat = 0x80 + c.toNat / 64 ^ (p.missing - 1) % 64 := by
  have awaits := holds.begun c ((List.prefix_append part [byte]).trans begun)
  rw [holds.encoded c awaits, List.prefix_append_right_inj, continuation_of_pos _ holds.owed,
    List.cons_prefix_cons] at begun
  exact ⟨awaits, by rw [begun.1, toNat_continuation]⟩

theorem fits_bounds (holds : p.Holds part) {b : Nat} (fits : p.low ≤ b ∧ b ≤ p.high) :
    0x80 ≤ b ∧ b ≤ 0xBF :=
  ⟨Nat.le_trans holds.interval.1 fits.1, Nat.le_trans fits.2 holds.interval.2.2⟩

/-- A code point with the byte next is a character that goes on with the byte. -/
theorem encoded_fed (holds : p.Holds part) (fits : p.low ≤ byte.toNat ∧ byte.toNat ≤ p.high)
    {c : Char} (awaits : (p.fed byte.toNat).Awaits c.toNat) :
    String.utf8EncodeChar c = part ++ [byte] ++ continuation c.toNat (p.missing - 1) := by
  obtain ⟨least, most⟩ := holds.fits_bounds fits
  obtain ⟨value, next⟩ := (awaits_fed_iff holds.owed least most).mp awaits
  rw [holds.encoded c ⟨value, by rwa [next]⟩, continuation_of_pos _ holds.owed, next,
    UInt8.ofNat_toNat, List.append_assoc, List.singleton_append]

theorem valid_fed (holds : p.Holds part) {b : Nat} (fits : p.low ≤ b ∧ b ≤ p.high) {n : Nat}
    (awaits : (p.fed b).Awaits n) : n.isValidChar := by
  obtain ⟨least, most⟩ := holds.fits_bounds fits
  obtain ⟨value, next⟩ := (awaits_fed_iff holds.owed least most).mp awaits
  exact holds.valid n ⟨value, by rwa [next]⟩

/-- There are code points with the byte next. -/
theorem exists_awaits (p : Pending) (b : Nat) :
    (p.fed b).Awaits ((p.fed b).value * 64 ^ (p.missing - 1)) := by
  have positive : 0 < 64 ^ (p.missing - 1) := Nat.pow_pos (by decide)
  refine ⟨Nat.mul_div_cancel _ positive, ?_⟩
  simp only [fed]
  omega

theorem begins_iff (holds : p.Holds part) :
    Begins (part ++ [byte]) ↔ p.low ≤ byte.toNat ∧ byte.toNat ≤ p.high := by
  constructor
  · rintro ⟨c, begun⟩
    obtain ⟨⟨-, fits⟩, next⟩ := holds.byte_eq begun
    rwa [next]
  · intro fits
    have awaits := exists_awaits p byte.toNat
    rw [← toNat_ofNat_of_isValidChar (holds.valid_fed fits awaits)] at awaits
    exact ⟨_, _, (holds.encoded_fed fits awaits).symm⟩

theorem fed (holds : p.Holds part) (more : p.missing ≠ 1)
    (fits : p.low ≤ byte.toNat ∧ byte.toNat ≤ p.high) :
    (p.fed byte.toNat).Holds (part ++ [byte]) where
  ne_nil := List.append_ne_nil_of_left_ne_nil holds.ne_nil _
  owed := Nat.sub_pos_of_lt (Nat.lt_of_le_of_ne holds.owed more.symm)
  interval := ⟨Nat.le_refl _, by simp [Pending.fed], Nat.le_refl _⟩
  valid _ := holds.valid_fed fits
  encoded _ := holds.encoded_fed fits
  begun c begun := by
    obtain ⟨least, most⟩ := holds.fits_bounds fits
    obtain ⟨awaits, next⟩ := holds.byte_eq begun
    exact (awaits_fed_iff holds.owed least most).mpr ⟨awaits.1, next.symm⟩

theorem encoded_last (holds : p.Holds part) (one : p.missing = 1)
    (fits : p.low ≤ byte.toNat ∧ byte.toNat ≤ p.high) :
    String.utf8EncodeChar (.ofNat (p.fed byte.toNat).value) = part ++ [byte] := by
  have awaits := exists_awaits p byte.toNat
  rw [one, Nat.sub_self, Nat.pow_zero, Nat.mul_one] at awaits
  have same := toNat_ofNat_of_isValidChar (holds.valid_fed fits awaits)
  rw [← same] at awaits
  rw [holds.encoded_fed fits awaits, one, Nat.sub_self, continuation, List.append_nil]

/-- No character is whole while bytes of it are missing. -/
theorem broken (holds : p.Holds part) (c : Char) : String.utf8EncodeChar c ≠ part := by
  intro whole
  have encoded := holds.encoded c (holds.begun c (whole ▸ List.prefix_rfl))
  rw [whole, continuation_of_pos _ holds.owed] at encoded
  simpa using congrArg List.length encoded

theorem begins (holds : p.Holds part) : Begins part := by
  obtain ⟨-, some, most⟩ := holds.interval
  have least : (UInt8.ofNat p.low).toNat = p.low :=
    UInt8.toNat_ofNat_of_lt' (Nat.lt_of_le_of_lt (Nat.le_trans some most) (by decide))
  have fits : p.low ≤ (UInt8.ofNat p.low).toNat ∧ (UInt8.ofNat p.low).toNat ≤ p.high := by
    rw [least]
    exact ⟨Nat.le_refl _, some⟩
  exact (holds.begins_iff.mpr fits).of_append

end Pending.Holds

theorem Pending.holds_of_leads (owed : 0 < p.missing)
    (interval : 0x80 ≤ p.low ∧ p.low ≤ p.high ∧ p.high ≤ 0xBF)
    (valid : ∀ n, p.Awaits n → n.isValidChar)
    (leads : ∀ n first more, Leads n first more → p.Awaits n →
      first = byte.toNat ∧ more = p.missing)
    (begun : ∀ n more, n.isValidChar → Leads n byte.toNat more → p.Awaits n) : p.Holds [byte] where
  ne_nil := List.cons_ne_nil _ _
  owed := owed
  interval := interval
  valid := valid
  encoded c awaits := by
    obtain ⟨first, more, own, encoded⟩ := exists_leads c
    obtain ⟨rfl, rfl⟩ := leads _ first more own awaits
    rw [encoded, UInt8.ofNat_toNat, List.singleton_append]
  begun c starts := by
    obtain ⟨more, own⟩ := exists_leads_of_begun starts
    exact begun _ more c.valid own

theorem holds_two (least : 0xC2 ≤ byte.toNat) (most : byte.toNat < 0xE0) :
    Pending.Holds ⟨1, byte.toNat - 0xC0, 0x80, 0xBF⟩ [byte] := by
  apply Pending.holds_of_leads <;> simp only [Pending.Awaits, Leads, Nat.isValidChar] <;> omega

/-- The interval keeps out overlong forms and surrogates. -/
theorem holds_three {low high : Nat} (least : 0xE0 ≤ byte.toNat) (most : byte.toNat < 0xF0)
    (first : byte.toNat = 0xE0 ∧ low = 0xA0 ∨ byte.toNat ≠ 0xE0 ∧ low = 0x80)
    (last : byte.toNat = 0xED ∧ high = 0x9F ∨ byte.toNat ≠ 0xED ∧ high = 0xBF) :
    Pending.Holds ⟨2, byte.toNat - 0xE0, low, high⟩ [byte] := by
  apply Pending.holds_of_leads <;> simp only [Pending.Awaits, Leads, Nat.isValidChar] <;> omega

/-- The interval keeps out overlong forms and values past the last code point. -/
theorem holds_four {low high : Nat} (least : 0xF0 ≤ byte.toNat) (most : byte.toNat < 0xF5)
    (first : byte.toNat = 0xF0 ∧ low = 0x90 ∨ byte.toNat ≠ 0xF0 ∧ low = 0x80)
    (last : byte.toNat = 0xF4 ∧ high = 0x8F ∨ byte.toNat ≠ 0xF4 ∧ high = 0xBF) :
    Pending.Holds ⟨3, byte.toNat - 0xF0, low, high⟩ [byte] := by
  apply Pending.holds_of_leads <;> simp only [Pending.Awaits, Leads, Nat.isValidChar] <;> omega

/-- The first byte of a character decides how the character goes on. -/
theorem start_cases (byte : UInt8) :
    (∃ c, start byte.toNat = ([c], idle) ∧ String.utf8EncodeChar c = [byte]) ∨
      (start byte.toNat = (['\uFFFD'], idle) ∧ ¬ Begins [byte]) ∨
        ∃ p, start byte.toNat = ([], p) ∧ p.Holds [byte] := by
  have stray (none : ∀ n more, ¬ Leads n byte.toNat more) : ¬ Begins [byte] := by
    rintro ⟨c, begun⟩
    obtain ⟨more, leads⟩ := exists_leads_of_begun begun
    exact none _ more leads
  unfold start
  split
  · next ascii =>
      left
      obtain ⟨first, more, leads, encoded⟩ := exists_leads (Char.ofNat byte.toNat)
      rw [toNat_ofNat_of_isValidChar (.inl (by omega))] at leads
      unfold Leads at leads
      obtain ⟨rfl, rfl⟩ : first = byte.toNat ∧ more = 0 := by omega
      exact ⟨_, rfl, by rw [encoded, UInt8.ofNat_toNat, continuation]⟩
  · split
    · refine .inr (.inl ⟨rfl, stray ?_⟩)
      unfold Leads
      omega
    · split
      · exact .inr (.inr ⟨_, rfl, holds_two (by omega) (by omega)⟩)
      · split
        · refine .inr (.inr ⟨_, rfl, holds_three (by omega) (by omega) ?_ ?_⟩) <;> split <;> omega
        · split
          · refine .inr (.inr ⟨_, rfl, holds_four (by omega) (by omega) ?_ ?_⟩) <;> split <;> omega
          · refine .inr (.inl ⟨rfl, stray ?_⟩)
            unfold Leads
            omega

theorem Piece.whole (c : Char) (rest : Bytes) : Piece (String.utf8EncodeChar c) rest c where
  ne_nil := by
    obtain ⟨first, more, -, encoded⟩ := exists_leads c
    rw [encoded]
    exact List.cons_ne_nil _ _
  begins _ := ⟨c, List.prefix_rfl⟩
  longest byte _ := by
    rintro ⟨d, begun⟩
    obtain rfl := eq_of_encoded_prefix ((List.prefix_append _ [byte]).trans begun)
    have length := begun.length_le
    rw [List.length_append, List.length_singleton] at length
    omega
  read := .inl rfl

theorem Piece.stray (none : ¬ Begins [byte]) (rest : Bytes) : Piece [byte] rest '\uFFFD' where
  ne_nil := List.cons_ne_nil _ _
  begins several := absurd several (Nat.lt_irrefl 1)
  longest _ _ begins := none begins.of_append
  read := .inr ⟨rfl, fun d whole => none ⟨d, whole ▸ List.prefix_rfl⟩⟩

theorem Pending.Holds.piece (holds : p.Holds part) {rest : Bytes}
    (stop : ∀ byte, rest.head? = some byte → ¬ (p.low ≤ byte.toNat ∧ byte.toNat ≤ p.high)) :
    Piece part rest '\uFFFD' where
  ne_nil := holds.ne_nil
  begins _ := holds.begins
  longest byte next begins := stop byte next (holds.begins_iff.mp begins)
  read := .inr ⟨rfl, holds.broken⟩

/-- What the decoder reads between two characters, and while it is in the middle of one. -/
theorem repairs_decodeFrom (bytes : Bytes) :
    Repairs bytes (decodeFrom idle bytes) ∧
      ∀ p part, p.Holds part → Repairs (part ++ bytes) (decodeFrom p bytes) := by
  induction bytes with
  | nil =>
      refine ⟨.nil, ?_⟩
      intro p part holds
      rw [decodeFrom, if_neg (Nat.ne_of_gt holds.owed)]
      exact .cons (holds.piece fun _ none => by cases none) .nil
  | cons byte rest ih =>
      obtain ⟨between, within⟩ := ih
      have fresh : Repairs (byte :: rest) (decodeFrom idle (byte :: rest)) := by
        rw [decodeFrom, show idle.next byte.toNat = start byte.toNat from rfl]
        rcases start_cases byte with ⟨c, started, encoded⟩ | ⟨started, none⟩ | ⟨p, started, holds⟩
        · rw [started]
          exact .cons (encoded ▸ Piece.whole c rest) between
        · rw [started]
          exact .cons (.stray none rest) between
        · rw [started]
          exact within p [byte] holds
      refine ⟨fresh, ?_⟩
      intro p part holds
      rw [decodeFrom]
      by_cases fits : p.low ≤ byte.toNat ∧ byte.toNat ≤ p.high
      · rw [Pending.next_of_fits holds.owed fits, ← List.singleton_append, ← List.append_assoc]
        split
        · next one => exact .cons (holds.encoded_last one fits ▸ Piece.whole _ rest) between
        · next more => exact within _ _ (holds.fed more fits)
      · -- The byte is read again, as the first one of another character.
        rw [Pending.next, if_neg (Nat.ne_of_gt holds.owed), if_neg fits]
        refine .cons (holds.piece ?_) fresh
        intro next same
        rwa [← Option.some.inj same]

theorem Piece.read_unique {part rest rest' : Bytes} {c c' : Char} (piece : Piece part rest c)
    (piece' : Piece part rest' c') : c = c' := by
  rcases piece.read with whole | ⟨rfl, none⟩
  · rcases piece'.read with whole' | ⟨-, none⟩
    · exact utf8EncodeChar_injective (whole.trans whole'.symm)
    · exact absurd whole (none c)
  · rcases piece'.read with whole | ⟨rfl, -⟩
    · exact absurd whole (none c')
    · rfl

/-- A piece does not stop where a longer one goes on. -/
theorem Piece.nil_of_append {part more rest : Bytes} {c c' : Char}
    (piece : Piece part (more ++ rest) c) (piece' : Piece (part ++ more) rest c') : more = [] := by
  cases more with
  | nil => rfl
  | cons byte more =>
      refine absurd ?_ (piece.longest byte rfl)
      have several : 1 < (part ++ byte :: more).length := by
        have := List.length_pos_iff.mpr piece.ne_nil
        rw [List.length_append, List.length_cons]
        omega
      have begins := piece'.begins several
      rw [← List.singleton_append, ← List.append_assoc] at begins
      exact begins.of_append

/-- Bytes are read in one way only. -/
theorem Repairs.unique {bytes bytes' : Bytes} {cs cs' : List Char} (repairs : Repairs bytes cs)
    (repairs' : Repairs bytes' cs') (same : bytes = bytes') : cs = cs' := by
  induction repairs generalizing bytes' cs' with
  | nil =>
      cases repairs' with
      | nil => rfl
      | cons piece' => exact absurd (List.append_eq_nil_iff.mp same.symm).1 piece'.ne_nil
  | @cons part rest c cs piece more ih =>
      cases repairs' with
      | nil => exact absurd (List.append_eq_nil_iff.mp same).1 piece.ne_nil
      | @cons part' rest' c' cs' piece' more' =>
          have parts : part = part' ∧ rest = rest' := by
            rcases List.append_eq_append_iff.mp same with ⟨m, rfl, rfl⟩ | ⟨m, rfl, rfl⟩
            · simp [piece.nil_of_append piece']
            · simp [piece'.nil_of_append piece]
          obtain ⟨rfl, rfl⟩ := parts
          rw [piece.read_unique piece', ih more' rfl]

theorem repairs_flatMap (cs : List Char) : Repairs (cs.flatMap String.utf8EncodeChar) cs := by
  induction cs with
  | nil => exact .nil
  | cons c cs ih => exact .cons (.whole c _) ih

/-- The characters of what is read are those that are read piece by piece. -/
theorem repairs_iff {bytes : Bytes} {text : String} :
    Repairs bytes text.toList ↔ decode bytes = text := by
  have read := (repairs_decodeFrom bytes).1
  constructor
  · intro repairs
    rw [decode, read.unique repairs rfl, String.ofList_toList]
  · rintro rfl
    rwa [decode, String.toList_ofList]

theorem decode_encode (text : String) : decode (encode text) = text := by
  rw [← repairs_iff]
  conv => lhs; rw [← String.ofList_toList (s := text), encode_ofList]
  exact repairs_flatMap _

/-- Bytes are a text exactly if they encode it. -/
theorem read?_eq_some_iff {bytes : Bytes} {text : String} :
    read? bytes = some text ↔ encode text = bytes := by
  unfold read?
  constructor
  · split
    · next whole =>
        intro same
        rwa [Option.some.inj same] at whole
    · intro none
      cases none
  · rintro rfl
    rw [decode_encode, if_pos rfl]

end SensorThresholds.Utf8
