import SensorThresholds.Text.Utf8

/-!
Texts without what would steer a terminal: escape sequences and control characters are left out,
and tabs, line breaks and form feeds stay.
-/

namespace SensorThresholds.Controls

/-- Where a terminal stands between two bytes. -/
inductive State where
  | text
  /-- After an escape. -/
  | escape
  /-- After an escape and bytes that go on with it. -/
  | prolonged
  /-- In a sequence that ends with a letter. -/
  | sequence
  /-- In a command that a bell may end. -/
  | command
  /-- In a message, which only another escape ends. -/
  | message
  deriving DecidableEq, Repr

/-- Tab, line feed, form feed and carriage return. -/
def isLayout (byte : Nat) : Bool := byte == 9 || byte == 10 || byte == 12 || byte == 13

/-- Where the second byte of an escape leads. -/
def afterEscape (byte : Nat) : State :=
  if byte < 0x20 ∨ 0x7F ≤ byte then .escape
  else if byte < 0x30 then .prolonged
  else if byte = 0x5B then .sequence
  else if byte = 0x5D then .command
  else if byte = 0x50 ∨ byte = 0x58 ∨ byte = 0x5E ∨ byte = 0x5F then .message
  else .text

/-- Whether a byte that starts no escape stays, and where it leads. -/
def State.next (state : State) (byte : Nat) : Bool × State :=
  if 0x80 ≤ byte ∧ byte < 0xC0 then (true, .text)
  else
    match state with
    | .text => (isLayout byte || (0x20 ≤ byte && byte ≠ 0x7F), .text)
    | .escape => if isLayout byte then (true, .text) else (false, afterEscape byte)
    | .prolonged =>
      if isLayout byte then (true, .text)
      else (false, if 0x30 ≤ byte ∧ byte < 0x7F then .text else .prolonged)
    | .sequence =>
      if isLayout byte then (true, .text)
      else (false, if 0x40 ≤ byte ∧ byte < 0x7F then .text else .sequence)
    | .command => (false, if byte = 7 then .text else .command)
    | .message => (false, .message)

/-- Takes one byte. An escape starts a sequence anywhere, and two controls end one. -/
def State.step (state : State) (byte : Nat) : Bool × State :=
  if byte = 0x1B then (false, .escape)
  else if byte = 0x18 ∨ byte = 0x1A then (false, .text)
  else state.next byte

def keep (state : State) : List UInt8 → List UInt8
  | [] => []
  | b :: rest =>
    let (kept, state) := state.step b.toNat
    if kept then b :: keep state rest else keep state rest

end SensorThresholds.Controls

namespace SensorThresholds

def withoutControls (text : String) : String :=
  Utf8.decode (Controls.keep .text (Utf8.encode text))

end SensorThresholds
