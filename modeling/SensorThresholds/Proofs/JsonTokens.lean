import SensorThresholds.Json.Document
import SensorThresholds.Proofs.JsonNumbers

/-!
The tokens of JSON text that is written for a document. A string is read back character by
character, with every escape the character it stands for.
-/

namespace SensorThresholds

namespace Token

theorem hexUnit?_of_control {n : ℕ} (control : n < 32) :
    hexUnit? '0' '0' (hexDigit (n / 16)) (hexDigit n) = some n := by
  revert n
  decide

theorem stringBody?_short {c x : Char} (short : shortEscape? c = some x) (rest : List Char) :
    stringBody? ('\\' :: c :: rest) = onto x (stringBody? rest) := by
  have other : c ≠ 'u' := by
    rintro rfl
    cases short
  rw [stringBody?, short]
  · intro _ _ _ _ _ same _
    exact other same

theorem stringBody?_control {c : Char} (control : c.toNat < 32) (rest : List Char) :
    stringBody? ('\\' :: 'u' :: '0' :: '0' :: hexDigit (c.toNat / 16) :: hexDigit c.toNat :: rest) =
      onto c (stringBody? rest) := by
  have high : isHighSurrogate c.toNat = false := by
    simp [isHighSurrogate]
    omega
  have low : isLowSurrogate c.toNat = false := by
    simp [isLowSurrogate]
    omega
  rw [stringBody?, hexUnit?_of_control control]
  simp [high, low]

/-- What is written for a character is read as that character. -/
theorem stringBody?_jsonEscape (c : Char) (rest : List Char) :
    stringBody? (jsonEscape c ++ rest) = onto c (stringBody? rest) := by
  unfold jsonEscape
  split
  · exact stringBody?_short rfl rest
  · exact stringBody?_short rfl rest
  · exact stringBody?_short rfl rest
  · exact stringBody?_short rfl rest
  · exact stringBody?_short rfl rest
  · exact stringBody?_short rfl rest
  · exact stringBody?_short rfl rest
  · next quote backslash _ _ _ _ _ =>
      split
      · next control => exact stringBody?_control control rest
      · next printable =>
          rw [List.singleton_append, stringBody?, if_neg printable]
          · exact quote
          · intro _ _ _ _ _ same _
            exact backslash same
          · intro _ _ same _
            exact backslash same

/-- A string is read up to the quote that closes it. -/
theorem stringBody?_append (cs rest : List Char) :
    stringBody? (cs.flatMap jsonEscape ++ '"' :: rest) = some (cs, rest) := by
  induction cs with
  | nil => rfl
  | cons c cs ih =>
      rw [List.flatMap_cons, List.append_assoc, stringBody?_jsonEscape, ih]
      rfl

theorem next?_string (text : String) (rest : List Char) :
    next? (jsonString text ++ rest) = some (string text, rest) := by
  rw [jsonString, List.cons_append, List.cons_append, next?, List.append_assoc,
    List.singleton_append, stringBody?_append]
  simp

theorem sign_of_ne {c : Char} (other : c ≠ '-') (rest : List Char) :
    sign (c :: rest) = (false, c :: rest) := by
  rw [sign]
  rintro _ ⟨⟩
  exact other rfl

/-- A literal starts with a digit or a minus sign. -/
theorem head_of_literal? {cs left : List Char} {l : Literal} (read : literal? cs = some (l, left)) :
    ∃ c rest, cs = c :: rest ∧ (c = '-' ∨ c.isDigit = true) := by
  simp only [literal?, wholePart?, Option.bind_eq_bind, Option.bind_eq_some_iff, Prod.exists] at read
  obtain ⟨_, _, ⟨_, _, found, -⟩, -⟩ := read
  cases cs with
  | nil => cases found
  | cons c rest =>
      refine ⟨c, rest, rfl, ?_⟩
      by_contra other
      push Not at other
      rw [sign_of_ne other.1] at found
      simp [digits?, digits, other.2] at found

theorem next?_of_literal? {cs left : List Char} {l : Literal} (read : literal? cs = some (l, left)) :
    next? cs = some (number l, left) := by
  obtain ⟨c, rest, rfl, first⟩ := head_of_literal? read
  have other (d : Char) (neither : d ≠ '-' ∧ d.isDigit = false) : c ≠ d := by
    rintro rfl
    simp [neither] at first
  unfold next?
  split
  case h_11 => rw [read, Option.map_some]
  all_goals
    next same =>
      exact absurd (List.cons.inj same).1 (other _ (by decide))

theorem not_isBlank_of_next? {c : Char} {cs left : List Char} {t : Token}
    (found : next? (c :: cs) = some (t, left)) : isBlank c = false := by
  rw [Bool.eq_false_iff]
  intro blank
  simp only [isBlank, Bool.or_eq_true, beq_iff_eq] at blank
  rcases blank with ((rfl | rfl) | rfl) | rfl <;>
    simp [next?, literal?, sign, wholePart?, digits?, digits] at found

theorem all?_of_next? {c : Char} {cs left : List Char} {t : Token}
    (found : next? (c :: cs) = some (t, left)) : all? (c :: cs) = (all? left).map (t :: ·) := by
  rw [all?, not_isBlank_of_next? found]
  simp only [Bool.false_eq_true, if_false]
  split
  · next none =>
      rw [found] at none
      cases none
  · next same =>
      rw [found] at same
      obtain ⟨rfl, rfl⟩ := same
      rfl

/-- The tokens are those of the text, whatever comes after it but more of a number. -/
def Tokenizes (cs : List Char) (ts : List Token) : Prop :=
  ∀ rest, NumberText.Ends rest → all? (cs ++ rest) = (all? rest).map (ts ++ ·)

theorem Tokenizes.nil : Tokenizes [] [] := by
  intro rest _
  simp

/-- One token of its own. -/
theorem Tokenizes.single {cs : List Char} {t : Token} (nonempty : cs ≠ [])
    (found : ∀ rest, NumberText.Ends rest → next? (cs ++ rest) = some (t, rest)) :
    Tokenizes cs [t] := by
  intro rest ends
  cases cs with
  | nil => exact absurd rfl nonempty
  | cons c cs => exact all?_of_next? (found rest ends)

/-- A character that is a token and cannot be part of a number. -/
structure Mark (c : Char) (t : Token) : Prop where
  next : ∀ rest, next? (c :: rest) = some (t, rest)
  ends : c.isDigit = false ∧ c ≠ '.' ∧ c ≠ 'e' ∧ c ≠ 'E'

theorem Mark.openArray : Mark '[' openArray := ⟨fun _ => rfl, by decide⟩

theorem Mark.closeArray : Mark ']' closeArray := ⟨fun _ => rfl, by decide⟩

theorem Mark.openObject : Mark '\x7b' openObject := ⟨fun _ => rfl, by decide⟩

theorem Mark.closeObject : Mark '\x7d' closeObject := ⟨fun _ => rfl, by decide⟩

theorem Mark.comma : Mark ',' comma := ⟨fun _ => rfl, by decide⟩

theorem Mark.colon : Mark ':' colon := ⟨fun _ => rfl, by decide⟩

variable {c : Char} {t : Token} {cs cs' : List Char} {ts ts' : List Token}

theorem Mark.tokenizes (mark : Mark c t) (after : Tokenizes cs ts) :
    Tokenizes (c :: cs) (t :: ts) := by
  intro rest ends
  rw [List.cons_append, all?_of_next? (mark.next _), after rest ends, Option.map_map]
  rfl

/-- Text with a mark behind it. -/
theorem Tokenizes.append (before : Tokenizes cs ts) (mark : Mark c t) (after : Tokenizes cs' ts') :
    Tokenizes (cs ++ c :: cs') (ts ++ t :: ts') := by
  intro rest ends
  have stops : NumberText.Ends (c :: (cs' ++ rest)) := by
    rintro _ ⟨⟩
    exact mark.ends
  rw [List.append_assoc, List.cons_append, before _ stops, ← List.cons_append,
    mark.tokenizes after rest ends, Option.map_map]
  refine congrArg (Option.map · _) (funext fun _ => ?_)
  simp

theorem tokenizes_string (text : String) : Tokenizes (jsonString text) [string text] :=
  .single (List.cons_ne_nil _ _) fun rest _ => next?_string text rest

end Token

namespace Document

mutual

/-- The tokens of a document, given the literals that its numbers are written as. -/
def tokens (lit : Number → Literal) : Document → List Token
  | .null => [.null]
  | .bool value => [.bool value]
  | .number n => [.number (lit n)]
  | .string value => [.string value]
  | .array items => .openArray :: (itemTokens lit items ++ [.closeArray])
  | .object members => .openObject :: (memberTokens lit members ++ [.closeObject])

def itemTokens (lit : Number → Literal) : List Document → List Token
  | [] => []
  | [v] => tokens lit v
  | v :: rest => tokens lit v ++ .comma :: itemTokens lit rest

def memberTokens (lit : Number → Literal) : List (String × Document) → List Token
  | [] => []
  | [(k, v)] => .string k :: .colon :: tokens lit v
  | (k, v) :: rest => .string k :: .colon :: (tokens lit v ++ .comma :: memberTokens lit rest)

end

mutual

def numbers : Document → List Number
  | .number n => [n]
  | .array items => itemNumbers items
  | .object members => memberNumbers members
  | _ => []

def itemNumbers : List Document → List Number
  | [] => []
  | v :: rest => numbers v ++ itemNumbers rest

def memberNumbers : List (String × Document) → List Number
  | [] => []
  | (_, v) :: rest => numbers v ++ memberNumbers rest

end

theorem mem_itemNumbers {n : Number} {items : List Document} :
    n ∈ itemNumbers items ↔ ∃ v ∈ items, n ∈ v.numbers := by
  induction items with
  | nil => simp [itemNumbers]
  | cons v rest ih => simp [itemNumbers, ih]

open Token

mutual

theorem tokenizes_chars (lit : Number → Literal) :
    ∀ d : Document, (∀ n ∈ d.numbers, n.Reads (lit n)) → Tokenizes d.chars (d.tokens lit)
  | .null, _ => by
      exact .single (List.cons_ne_nil _ _) fun _ _ => rfl
  | .bool true, _ => by
      exact .single (List.cons_ne_nil _ _) fun _ _ => rfl
  | .bool false, _ => by
      exact .single (List.cons_ne_nil _ _) fun _ _ => rfl
  | .number n, reads => by
      have read := reads n (List.mem_singleton_self n)
      refine .single ?_ fun rest ends => next?_of_literal? (read rest ends)
      obtain ⟨c, rest, first, -⟩ := head_of_literal? (read [] (by rintro _ ⟨⟩))
      rw [List.append_nil] at first
      show n.json.toList ≠ []
      exact first ▸ List.cons_ne_nil c rest
  | .string value, _ => by
      exact tokenizes_string value
  | .array items, reads => by
      have inner := tokenizes_itemChars lit items reads
      exact Mark.openArray.tokenizes (inner.append Mark.closeArray .nil)
  | .object members, reads => by
      have inner := tokenizes_memberChars lit members reads
      exact Mark.openObject.tokenizes (inner.append Mark.closeObject .nil)

theorem tokenizes_itemChars (lit : Number → Literal) :
    ∀ items : List Document, (∀ n ∈ itemNumbers items, n.Reads (lit n)) →
      Tokenizes (itemChars items) (itemTokens lit items)
  | [], _ => .nil
  | [v], reads => tokenizes_chars lit v fun n member => reads n (List.mem_append_left _ member)
  | v :: w :: rest, reads => by
      have first := tokenizes_chars lit v fun n member => reads n (List.mem_append_left _ member)
      have others := tokenizes_itemChars lit (w :: rest) fun n member =>
        reads n (List.mem_append_right _ member)
      exact first.append Mark.comma others

theorem tokenizes_memberChars (lit : Number → Literal) :
    ∀ members : List (String × Document), (∀ n ∈ memberNumbers members, n.Reads (lit n)) →
      Tokenizes (memberChars members) (memberTokens lit members)
  | [], _ => .nil
  | [(k, v)], reads => by
      have value := tokenizes_chars lit v fun n member => reads n (List.mem_append_left _ member)
      exact (tokenizes_string k).append Mark.colon value
  | (k, v) :: w :: rest, reads => by
      have value := tokenizes_chars lit v fun n member => reads n (List.mem_append_left _ member)
      have others := tokenizes_memberChars lit (w :: rest) fun n member =>
        reads n (List.mem_append_right _ member)
      have both := (tokenizes_string k).append Mark.colon (value.append Mark.comma others)
      rwa [← List.cons_append, ← List.append_assoc] at both

end

end Document

end SensorThresholds
