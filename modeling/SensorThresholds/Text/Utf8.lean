/-!
UTF-8. Reading never fails: a sequence that breaks off or that no character has is read as one
replacement character, and reading goes on at the first byte that did not fit.
-/

namespace SensorThresholds.Utf8

abbrev Bytes := List UInt8

def encode (s : String) : Bytes := s.toUTF8.toList

theorem toList_loop (bytes : ByteArray) (i : Nat) (taken : List UInt8) :
    ByteArray.toList.loop bytes i taken = taken.reverse ++ bytes.data.toList.drop i := by
  induction i, taken using ByteArray.toList.loop.induct bytes with
  | case1 i taken more ih =>
      have first : bytes.data.toList.drop i = bytes.get! i :: bytes.data.toList.drop (i + 1) := by
        rw [List.drop_eq_getElem_cons (by simpa using more)]
        simp [ByteArray.get!, getElem!_pos bytes.data i more]
      rw [ByteArray.toList.loop, if_pos more, ih, List.reverse_cons, List.append_assoc, first]
      rfl
  | case2 i taken done =>
      have none : bytes.data.toList.drop i = [] := List.drop_eq_nil_of_le (by simpa using done)
      rw [ByteArray.toList.loop, if_neg done, none, List.append_nil]

theorem encode_eq (s : String) : encode s = s.toUTF8.data.toList := by
  rw [encode, ByteArray.toList, toList_loop, List.reverse_nil, List.nil_append, List.drop_zero]

theorem encode_append (s t : String) : encode (s ++ t) = encode s ++ encode t := by
  simp only [encode_eq, String.toUTF8, String.toByteArray_append, ByteArray.data_append,
    Array.toList_append]

theorem length_encode (s : String) : (encode s).length = s.utf8ByteSize := by
  rw [encode_eq]
  simp

theorem encode_line_ne_nil (line : String) : encode (line ++ "\n") ≠ [] := by
  intro empty
  have length := length_encode (line ++ "\n")
  rw [empty, String.utf8ByteSize_append] at length
  have newline : "\n".utf8ByteSize = 1 := by decide
  simp [newline] at length

/-- Different texts are different bytes. -/
theorem encode_injective {s t : String} (same : encode s = encode t) : s = t := by
  rw [encode_eq, encode_eq] at same
  exact String.toByteArray_inj.mp (ByteArray.ext (Array.toList_inj.mp same))

/-- A character of which some bytes have been read: how many are missing, the value so far, and the
interval in which the next byte must lie. -/
structure Pending where
  missing : Nat
  value : Nat
  low : Nat
  high : Nat
  deriving DecidableEq, Repr

/-- Between two characters. -/
def idle : Pending := ⟨0, 0, 0x80, 0xBF⟩

/-- What the first byte of a character decides. The interval keeps out overlong forms, surrogates
and values past the last code point. -/
def start (byte : Nat) : List Char × Pending :=
  if byte < 0x80 then ([.ofNat byte], idle)
  else if byte < 0xC2 then (['\uFFFD'], idle)
  else if byte < 0xE0 then ([], ⟨1, byte - 0xC0, 0x80, 0xBF⟩)
  else if byte < 0xF0 then
    ([], ⟨2, byte - 0xE0, if byte = 0xE0 then 0xA0 else 0x80, if byte = 0xED then 0x9F else 0xBF⟩)
  else if byte < 0xF5 then
    ([], ⟨3, byte - 0xF0, if byte = 0xF0 then 0x90 else 0x80, if byte = 0xF4 then 0x8F else 0xBF⟩)
  else (['\uFFFD'], idle)

/-- Takes one more byte. -/
def Pending.next (p : Pending) (byte : Nat) : List Char × Pending :=
  if p.missing = 0 then start byte
  else if p.low ≤ byte ∧ byte ≤ p.high then
    let value := p.value * 0x40 + (byte - 0x80)
    if p.missing = 1 then ([.ofNat value], idle) else ([], ⟨p.missing - 1, value, 0x80, 0xBF⟩)
  else ('\uFFFD' :: (start byte).1, (start byte).2)

def decodeFrom (p : Pending) : Bytes → List Char
  | [] => if p.missing = 0 then [] else ['\uFFFD']
  | b :: rest => (p.next b.toNat).1 ++ decodeFrom (p.next b.toNat).2 rest

def decode (bytes : Bytes) : String := .ofList (decodeFrom idle bytes)

/-- The text whose encoding the bytes are, if they are one. -/
def read? (bytes : Bytes) : Option String :=
  if encode (decode bytes) = bytes then some (decode bytes) else none

end SensorThresholds.Utf8
