import SensorThresholds.Json.Number
import SensorThresholds.Text.Numeral

/-!
The tokens of JSON text. Each reader takes one token off the front and returns what is left, and
what is left is always shorter.
-/

namespace SensorThresholds

inductive Token where
  | openArray
  | closeArray
  | openObject
  | closeObject
  | comma
  | colon
  | null
  | bool (value : Bool)
  | string (value : String)
  | number (value : Literal)
  deriving DecidableEq, Repr

namespace Token

def hexUnit? (a b c d : Char) : Option Nat := do
  return (((← hexValue? a) * 16 + (← hexValue? b)) * 16 + (← hexValue? c)) * 16 + (← hexValue? d)

def shortEscape? : Char → Option Char
  | '"' => some '"'
  | '\\' => some '\\'
  | '/' => some '/'
  | 'b' => some '\x08'
  | 'f' => some '\x0c'
  | 'n' => some '\n'
  | 'r' => some '\r'
  | 't' => some '\t'
  | _ => none

def isHighSurrogate (unit : Nat) : Bool := 0xD800 ≤ unit && unit < 0xDC00

def isLowSurrogate (unit : Nat) : Bool := 0xDC00 ≤ unit && unit < 0xE000

def ofSurrogates (high low : Nat) : Char :=
  .ofNat (0x10000 + (high - 0xD800) * 0x400 + (low - 0xDC00))

/-- Puts a character in front of those that a reader found. -/
def onto (c : Char) (found : Option (List Char × List Char)) : Option (List Char × List Char) :=
  found.map fun (cs, left) => (c :: cs, left)

theorem onto_eq_some {c : Char} {found : Option (List Char × List Char)} {cs left : List Char} :
    onto c found = some (cs, left) ↔ ∃ body, found = some (body, left) ∧ cs = c :: body := by
  simp only [onto, Option.map_eq_some_iff, Prod.exists, Prod.mk.injEq]
  constructor
  · rintro ⟨body, _, h, rfl, rfl⟩
    exact ⟨body, h, rfl⟩
  · rintro ⟨body, h, rfl⟩
    exact ⟨body, left, h, rfl, rfl⟩

/-- The characters of a string up to its closing quote. A high surrogate is read together with the
low one that must follow it, and no surrogate stands alone. -/
def stringBody? : List Char → Option (List Char × List Char)
  | [] => none
  | '"' :: rest => some ([], rest)
  | '\\' :: 'u' :: a :: b :: c :: d :: rest =>
    match hexUnit? a b c d with
    | none => none
    | some unit =>
      if isHighSurrogate unit then
        match rest with
        | '\\' :: 'u' :: e :: f :: g :: h :: rest =>
          match hexUnit? e f g h with
          | none => none
          | some low =>
            if isLowSurrogate low then
              onto (ofSurrogates unit low) (stringBody? rest)
            else none
        | _ => none
      else if isLowSurrogate unit then none
      else onto (.ofNat unit) (stringBody? rest)
  | '\\' :: c :: rest =>
    match shortEscape? c with
    | none => none
    | some x => onto x (stringBody? rest)
  | c :: rest =>
    if c < ' ' then none
    else onto c (stringBody? rest)

def digitValue (c : Char) : Nat := c.toNat - '0'.toNat

/-- The digits at the front, and what follows them. -/
def digits (cs : List Char) : List Nat × List Char :=
  ((cs.takeWhile Char.isDigit).map digitValue, cs.dropWhile Char.isDigit)

def sign : List Char → Bool × List Char
  | '-' :: rest => (true, rest)
  | cs => (false, cs)

/-- As `digits`, where there must be at least one. -/
def digits? (cs : List Char) : Option (List Nat × List Char) :=
  if (digits cs).1 = [] then none else some (digits cs)

/-- Digits without a zero in front of others. -/
def wholePart? (cs : List Char) : Option (List Nat × List Char) := do
  let (ds, rest) ← digits? cs
  if ds.head? = some 0 ∧ 1 < ds.length then none else some (ds, rest)

def fraction? : List Char → Option (List Nat × List Char)
  | '.' :: rest => digits? rest
  | cs => some ([], cs)

def exponentSign : List Char → Bool × List Char
  | '+' :: rest => (false, rest)
  | cs => sign cs

def exponent? : List Char → Option (Option (Bool × List Nat) × List Char)
  | [] => some (none, [])
  | c :: rest =>
    if c = 'e' ∨ c = 'E' then
      (digits? (exponentSign rest).2).map fun (ds, left) =>
        (some ((exponentSign rest).1, ds), left)
    else some (none, c :: rest)

def literal? (cs : List Char) : Option (Literal × List Char) := do
  let (negative, cs) := sign cs
  let (whole, cs) ← wholePart? cs
  let (fraction, cs) ← fraction? cs
  let (exponent, cs) ← exponent? cs
  return (⟨negative, whole, fraction, exponent⟩, cs)

/-- The token at the front of a text that does not start with white space. -/
def next? : List Char → Option (Token × List Char)
  | '[' :: rest => some (openArray, rest)
  | ']' :: rest => some (closeArray, rest)
  | '\x7b' :: rest => some (openObject, rest)
  | '\x7d' :: rest => some (closeObject, rest)
  | ',' :: rest => some (comma, rest)
  | ':' :: rest => some (colon, rest)
  | 'n' :: 'u' :: 'l' :: 'l' :: rest => some (null, rest)
  | 't' :: 'r' :: 'u' :: 'e' :: rest => some (bool true, rest)
  | 'f' :: 'a' :: 'l' :: 's' :: 'e' :: rest => some (bool false, rest)
  | '"' :: rest => (stringBody? rest).map fun (cs, left) => (string (.ofList cs), left)
  | cs => (literal? cs).map fun (l, left) => (number l, left)

theorem length_stringBody? {cs body left : List Char} (h : stringBody? cs = some (body, left)) :
    left.length < cs.length := by
  fun_induction stringBody? cs generalizing body left
  all_goals try simp only [reduceCtorEq] at h
  all_goals first
    | (rename_i shorter
       obtain ⟨_, found, _⟩ := onto_eq_some.1 h
       have := shorter found
       simp only [List.length_cons]
       omega)
    | simp_all

theorem length_digits (cs : List Char) :
    (digits cs).1.length + (digits cs).2.length = cs.length := by
  simp only [digits, List.length_map]
  rw [← List.length_append, List.takeWhile_append_dropWhile]

theorem length_digits? {cs left : List Char} {ds : List Nat} (h : digits? cs = some (ds, left)) :
    left.length < cs.length := by
  have split := length_digits cs
  unfold digits? at h
  split at h
  · simp at h
  · rename_i nonempty
    obtain ⟨rfl, rfl⟩ : (digits cs).1 = ds ∧ (digits cs).2 = left := by simpa [Prod.ext_iff] using h
    have := List.length_pos_iff.2 nonempty
    omega

theorem length_sign (cs : List Char) : (sign cs).2.length ≤ cs.length := by
  unfold sign; split <;> simp

theorem length_exponentSign (cs : List Char) : (exponentSign cs).2.length ≤ cs.length := by
  unfold exponentSign; split <;> simp [length_sign]

theorem length_wholePart? {cs left : List Char} {ds : List Nat}
    (h : wholePart? cs = some (ds, left)) : left.length < cs.length := by
  simp only [wholePart?, Option.bind_eq_bind, Option.bind_eq_some_iff] at h
  obtain ⟨⟨_, _⟩, found, h⟩ := h
  split at h
  · simp at h
  · obtain ⟨rfl, rfl⟩ := by simpa using h
    exact length_digits? found

theorem length_fraction? {cs left : List Char} {ds : List Nat}
    (h : fraction? cs = some (ds, left)) : left.length ≤ cs.length := by
  unfold fraction? at h
  split at h
  · have := length_digits? h
    simp only [List.length_cons]
    omega
  · obtain ⟨_, rfl⟩ := by simpa using h
    exact Nat.le_refl _

theorem length_exponent? {cs left : List Char} {found : Option (Bool × List Nat)}
    (h : exponent? cs = some (found, left)) : left.length ≤ cs.length := by
  unfold exponent? at h
  split at h
  · obtain ⟨_, rfl⟩ := by simpa using h
    exact Nat.le_refl _
  · rename_i rest
    split at h
    · obtain ⟨⟨ds, _⟩, digitsFound, same⟩ := Option.map_eq_some_iff.1 h
      obtain ⟨_, rfl⟩ := by simpa using same
      have := length_digits? digitsFound
      have := length_exponentSign rest
      simp only [List.length_cons]
      omega
    · obtain ⟨_, rfl⟩ := by simpa using h
      exact Nat.le_refl _

theorem length_literal? {cs left : List Char} {l : Literal} (h : literal? cs = some (l, left)) :
    left.length < cs.length := by
  simp only [literal?, Option.bind_eq_bind, Option.bind_eq_some_iff, Prod.exists] at h
  obtain ⟨_, _, whole, _, _, fraction, _, _, exponent, same⟩ := h
  obtain ⟨_, rfl⟩ := by simpa using same
  have := length_sign cs
  have := length_wholePart? whole
  have := length_fraction? fraction
  have := length_exponent? exponent
  omega

theorem length_next? {cs left : List Char} {t : Token} (h : next? cs = some (t, left)) :
    left.length < cs.length := by
  unfold next? at h
  split at h
  case h_10 =>
    obtain ⟨⟨_, _⟩, found, same⟩ := Option.map_eq_some_iff.1 h
    obtain ⟨_, rfl⟩ := by simpa using same
    have := length_stringBody? found
    simp only [List.length_cons]
    omega
  case h_11 =>
    obtain ⟨⟨_, _⟩, found, same⟩ := Option.map_eq_some_iff.1 h
    obtain ⟨_, rfl⟩ := by simpa using same
    exact length_literal? found
  all_goals
    obtain ⟨_, rfl⟩ := by simpa using h
    simp only [List.length_cons]
    omega

def isBlank (c : Char) : Bool := c == ' ' || c == '\t' || c == '\n' || c == '\r'

/-- All tokens of a text, with white space between them. -/
def all? (cs : List Char) : Option (List Token) :=
  match cs with
  | [] => some []
  | c :: rest =>
    if isBlank c then all? rest
    else
      match _ : next? (c :: rest) with
      | none => none
      | some (t, left) => (all? left).map (t :: ·)
termination_by cs.length
decreasing_by
  · simp
  · exact length_next? ‹_›

end Token
end SensorThresholds
