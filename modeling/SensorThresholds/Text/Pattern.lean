import SensorThresholds.Text.CharSet

/-!
Patterns for texts: characters and sets of characters in sequence, alternatives, repetitions and
groups. Of several ways to match, the one that starts first counts, and of those the one that the
pattern prefers.
-/

namespace SensorThresholds

inductive Pattern where
  | empty
  /-- One character of a set, or of all others. -/
  | char (set : CharSet) (negated : Bool)
  | textStart
  | textEnd
  | seq (first second : Pattern)
  /-- The first alternative is preferred. -/
  | either (first second : Pattern)
  /-- Any number of times; more is preferred if it is greedy. -/
  | many (body : Pattern) (greedy : Bool)
  deriving DecidableEq, Repr

namespace Pattern

/-- Where repeated steps from a position lead, the preferred end first. A step that goes nowhere
ends the repetition. -/
def iterate (step : Nat → List Nat) (greedy : Bool) : Nat → Nat → List Nat
  | 0, i => [i]
  | fuel + 1, i =>
    let more := ((step i).filter (i < ·)).flatMap (iterate step greedy fuel)
    (if greedy then more ++ [i] else i :: more).eraseDups

/-- Where matches end that start at a position, the preferred end first. -/
def ends (text : List Char) : Pattern → Nat → List Nat
  | empty, i => [i]
  | char set negated, i =>
    match text[i]? with
    | some c => if set.contains c != negated then [i + 1] else []
    | none => []
  | textStart, i => if i = 0 then [i] else []
  | textEnd, i => if i = text.length then [i] else []
  | seq p q, i => ((ends text p i).flatMap (ends text q)).eraseDups
  | either p q, i => (ends text p i ++ ends text q i).eraseDups
  | many p greedy, i => iterate (ends text p) greedy (text.length - i) i

/-- Whether the match that counts reaches to the end of the text. -/
def matchesEnd (p : Pattern) (text : String) : Bool :=
  let cs := text.toList
  (List.range (cs.length + 1)).findSome? (fun i => (p.ends cs i).head?) == some cs.length

def single (c : Char) : Pattern := char [(c.toNat, c.toNat)] false

def anyChar : Pattern := char [('\n'.toNat, '\n'.toNat)] true

inductive Token where
  | item (p : Pattern)
  | opening
  | closing
  | bar
  | star (greedy : Bool)
  | plus (greedy : Bool)
  | question (greedy : Bool)
  deriving DecidableEq, Repr

/-- The characters and intervals between brackets. -/
def readSet? : List Char → Option CharSet
  | [] => some []
  | '\\' :: _ | '[' :: _ => none
  | low :: '-' :: high :: rest =>
    if high = '\\' ∨ high = '[' ∨ high < low then none
    else (readSet? rest).map ((low.toNat, high.toNat) :: ·)
  | c :: rest => (readSet? rest).map ((c.toNat, c.toNat) :: ·)

/-- What stands up to a closing bracket, and what follows it. -/
def upToBracket? : List Char → Option (List Char × List Char)
  | [] => none
  | c :: rest =>
    if c = ']' then some ([], rest)
    else (upToBracket? rest).map fun (inner, left) => (c :: inner, left)

theorem length_upToBracket? {cs inner left : List Char}
    (h : upToBracket? cs = some (inner, left)) : left.length < cs.length := by
  induction cs generalizing inner with
  | nil => simp [upToBracket?] at h
  | cons c rest ih =>
    simp only [upToBracket?] at h
    split at h
    · obtain ⟨_, rfl⟩ := by simpa using h
      simp
    · obtain ⟨⟨_, _⟩, found, same⟩ := Option.map_eq_some_iff.1 h
      obtain ⟨_, rfl⟩ := by simpa using same
      have := ih found
      simp only [List.length_cons]
      omega

/-- Whether brackets hold what must not match, what they hold, and what follows them. A closing
bracket at their start does not close them. -/
def splitSet? : List Char → Option (Bool × List Char × List Char)
  | '^' :: ']' :: rest => (upToBracket? rest).map fun (inner, left) => (true, ']' :: inner, left)
  | '^' :: rest => (upToBracket? rest).map fun (inner, left) => (true, inner, left)
  | ']' :: rest => (upToBracket? rest).map fun (inner, left) => (false, ']' :: inner, left)
  | rest => (upToBracket? rest).map fun (inner, left) => (false, inner, left)

theorem length_splitSet? {cs inner left : List Char} {negated : Bool}
    (h : splitSet? cs = some (negated, inner, left)) : left.length < cs.length := by
  unfold splitSet? at h
  split at h <;>
  · obtain ⟨⟨_, _⟩, found, same⟩ := Option.map_eq_some_iff.1 h
    obtain ⟨_, _, rfl⟩ := by simpa using same
    have := length_upToBracket? found
    grind

/-- What a backslash makes of a character. -/
def escaped? (c : Char) : Option Pattern :=
  if c = 'n' then some (single '\n')
  else if c = 't' then some (single '\t')
  else if c = 'r' then some (single '\x0d')
  else if c = 'd' then some (char [('0'.toNat, '9'.toNat)] false)
  else if c.isAlphanum ∨ c.toNat ≥ 0x80 then none
  else some (single c)

def tokens? (cs : List Char) : Option (List Token) :=
  match cs with
  | [] => some []
  | '\\' :: c :: rest => do return .item (← escaped? c) :: (← tokens? rest)
  | ['\\'] => none
  | '(' :: '?' :: ':' :: rest => (tokens? rest).map (.opening :: ·)
  | '(' :: '?' :: _ => none
  | '(' :: rest => (tokens? rest).map (.opening :: ·)
  | ')' :: rest => (tokens? rest).map (.closing :: ·)
  | '|' :: rest => (tokens? rest).map (.bar :: ·)
  | '*' :: '?' :: rest => (tokens? rest).map (.star false :: ·)
  | '*' :: rest => (tokens? rest).map (.star true :: ·)
  | '+' :: '?' :: rest => (tokens? rest).map (.plus false :: ·)
  | '+' :: rest => (tokens? rest).map (.plus true :: ·)
  | '?' :: '?' :: rest => (tokens? rest).map (.question false :: ·)
  | '?' :: rest => (tokens? rest).map (.question true :: ·)
  | '.' :: rest => (tokens? rest).map (.item anyChar :: ·)
  | '^' :: rest => (tokens? rest).map (.item textStart :: ·)
  | '$' :: rest => (tokens? rest).map (.item textEnd :: ·)
  | '\x7b' :: _ => none
  | '[' :: rest =>
    match _ : splitSet? rest with
    | some (negated, inner, left) => do
      return .item (char (← readSet? inner) negated) :: (← tokens? left)
    | none => none
  | c :: rest => (tokens? rest).map (.item (single c) :: ·)
termination_by cs.length
decreasing_by
  all_goals
    try have := length_splitSet? ‹_›
    simp only [List.length_cons]
    omega

/-- An open group: its finished alternatives, and the items of the last one, the latest first. -/
structure Group where
  alternatives : Option Pattern
  items : List Pattern

namespace Group

def start : Group := ⟨none, []⟩

def close (g : Group) : Pattern :=
  let last := g.items.foldl (fun rest item => seq item rest) .empty
  match g.alternatives with
  | some p => either p last
  | none => last

def push (g : Group) (item : Pattern) : Group := { g with items := item :: g.items }

/-- Repeats the latest item. -/
def repeated? (g : Group) (change : Pattern → Pattern) : Option Group :=
  match g.items with
  | item :: rest => some { g with items := change item :: rest }
  | [] => none

end Group

/-- Reads tokens into the innermost open group; `outer` are those around it. -/
def build? (outer : List Group) (g : Group) : List Token → Option Pattern
  | [] => if outer.isEmpty then some g.close else none
  | .item p :: rest => build? outer (g.push p) rest
  | .opening :: rest => build? (g :: outer) .start rest
  | .closing :: rest =>
    match outer with
    | parent :: others => build? others (parent.push g.close) rest
    | [] => none
  | .bar :: rest => build? outer ⟨some g.close, []⟩ rest
  | .star greedy :: rest => do build? outer (← g.repeated? (many · greedy)) rest
  | .plus greedy :: rest => do build? outer (← g.repeated? fun p => seq p (many p greedy)) rest
  | .question greedy :: rest => do
    let change := fun p => if greedy then either p .empty else either .empty p
    build? outer (← g.repeated? change) rest

def read? (text : String) : Option Pattern := do build? [] .start (← tokens? text.toList)

end Pattern
end SensorThresholds
