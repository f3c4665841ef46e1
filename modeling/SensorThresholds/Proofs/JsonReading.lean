import SensorThresholds.Proofs.JsonGrammar
import SensorThresholds.Proofs.JsonTokens

/-!
Reading back the JSON text of a document. What is read is the document itself, with the members of
every object in their order, and its numbers as literals.
-/

namespace SensorThresholds
namespace Document

open Written

mutual

/-- A document as it is written, given the literals that its numbers are written as. -/
def written (lit : Number → Literal) : Document → Written
  | .null => .null
  | .bool value => .bool value
  | .number n => .number (lit n)
  | .string value => .string value
  | .array items => .array (writtenItems lit items)
  | .object members => .object (writtenMembers lit members)

def writtenItems (lit : Number → Literal) : List Document → List Written
  | [] => []
  | v :: rest => written lit v :: writtenItems lit rest

def writtenMembers (lit : Number → Literal) :
    List (String × Document) → List (String × Written)
  | [] => []
  | (k, v) :: rest => (k, written lit v) :: writtenMembers lit rest

end

mutual

/-- How many containers stand inside one another. -/
def depth : Document → Nat
  | .array items => itemDepth items + 1
  | .object members => memberDepth members + 1
  | _ => 0

def itemDepth : List Document → Nat
  | [] => 0
  | v :: rest => max (depth v) (itemDepth rest)

def memberDepth : List (String × Document) → Nat
  | [] => 0
  | (_, v) :: rest => max (depth v) (memberDepth rest)

end

theorem writtenItems_eq_map (lit : Number → Literal) (items : List Document) :
    writtenItems lit items = items.map (written lit) := by
  induction items with
  | nil => rfl
  | cons v rest ih => rw [writtenItems, ih, List.map_cons]

theorem itemDepth_le {items : List Document} {k : ℕ} (shallow : ∀ v ∈ items, v.depth ≤ k) :
    itemDepth items ≤ k := by
  induction items with
  | nil => exact Nat.zero_le k
  | cons v rest ih =>
      rw [List.forall_mem_cons] at shallow
      rw [itemDepth]
      exact max_le shallow.1 (ih shallow.2)

mutual

theorem tokens_written (lit : Number → Literal) :
    ∀ d : Document, (d.written lit).tokens = d.tokens lit
  | .null => rfl
  | .bool _ => rfl
  | .number _ => rfl
  | .string _ => rfl
  | .array items => by rw [written, Written.tokens, itemTokens_written lit items, tokens]
  | .object members => by rw [written, Written.tokens, memberTokens_written lit members, tokens]

theorem itemTokens_written (lit : Number → Literal) :
    ∀ items : List Document, Written.itemTokens (writtenItems lit items) = itemTokens lit items
  | [] => rfl
  | [v] => tokens_written lit v
  | v :: w :: rest => by
      have others := itemTokens_written lit (w :: rest)
      rw [writtenItems] at others ⊢
      rw [writtenItems, Written.itemTokens_cons _ (List.cons_ne_nil _ _), others,
        tokens_written lit v]
      rfl

theorem memberTokens_written (lit : Number → Literal) :
    ∀ members : List (String × Document),
      Written.memberTokens (writtenMembers lit members) = memberTokens lit members
  | [] => rfl
  | [(k, v)] => congrArg (Token.string k :: Token.colon :: ·) (tokens_written lit v)
  | (k, v) :: m :: rest => by
      have others := memberTokens_written lit (m :: rest)
      rw [writtenMembers] at others ⊢
      rw [writtenMembers, Written.memberTokens_cons _ _ (List.cons_ne_nil _ _), others,
        tokens_written lit v]
      rfl

end

mutual

theorem depth_written (lit : Number → Literal) : ∀ d : Document, (d.written lit).depth = d.depth
  | .null => rfl
  | .bool _ => rfl
  | .number _ => rfl
  | .string _ => rfl
  | .array items => congrArg (· + 1) (itemDepth_written lit items)
  | .object members => congrArg (· + 1) (memberDepth_written lit members)

theorem itemDepth_written (lit : Number → Literal) :
    ∀ items : List Document, Written.itemDepth (writtenItems lit items) = itemDepth items
  | [] => rfl
  | v :: rest => congrArg₂ max (depth_written lit v) (itemDepth_written lit rest)

theorem memberDepth_written (lit : Number → Literal) :
    ∀ members : List (String × Document),
      Written.memberDepth (writtenMembers lit members) = memberDepth members
  | [] => rfl
  | (_, v) :: rest => congrArg₂ max (depth_written lit v) (memberDepth_written lit rest)

end

theorem all?_blank {cs : List Char} (blank : ∀ c ∈ cs, Token.isBlank c = true) :
    Token.all? cs = some [] := by
  induction cs with
  | nil => rw [Token.all?]
  | cons c cs ih =>
      rw [Token.all?, if_pos (blank c List.mem_cons_self)]
      exact ih fun d member => blank d (List.mem_cons_of_mem c member)

theorem ends_of_blank {cs : List Char} (blank : ∀ c ∈ cs, Token.isBlank c = true) :
    NumberText.Ends cs := by
  intro c first
  have space := blank c (List.mem_of_head? first)
  simp only [Token.isBlank, Bool.or_eq_true, beq_iff_eq] at space
  rcases space with ((rfl | rfl) | rfl) | rfl <;> decide

/-- The text of a document is read as the document, white space behind it or not. -/
theorem read?_text {d : Document} {lit : Number → Literal}
    (reads : ∀ n ∈ d.numbers, n.Reads (lit n)) (shallow : d.depth ≤ depthLimit) {after : List Char}
    (blank : ∀ c ∈ after, Token.isBlank c = true) :
    Written.read? (d.text ++ .ofList after) = some (d.written lit) := by
  have tokens : Token.all? (d.chars ++ after) = some (d.tokens lit) := by
    rw [tokenizes_chars lit d reads after (ends_of_blank blank), all?_blank blank, Option.map_some,
      List.append_nil]
  rw [Written.read?, text, String.toList_append, String.toList_ofList, String.toList_ofList, tokens,
    Option.bind_some, ofTokens?_eq_some_iff, tokens_written, depth_written]
  exact ⟨rfl, shallow⟩

/-- A document with finite numbers is read back, every number as a literal that denotes it. -/
theorem exists_reading {d : Document} (finite : ∀ n ∈ d.numbers, n.isFinite = true)
    (shallow : d.depth ≤ depthLimit) {after : List Char}
    (blank : ∀ c ∈ after, Token.isBlank c = true) :
    ∃ lit : Number → Literal, (∀ n : Number, n.isFinite = true → (lit n).Denotes n) ∧
      Written.read? (d.text ++ .ofList after) = some (d.written lit) := by
  have literals (n : Number) : ∃ l : Literal, n.isFinite = true → n.Reads l ∧ l.Denotes n := by
    by_cases finite : n.isFinite = true
    · obtain ⟨l, both⟩ := Number.exists_literal finite
      exact ⟨l, fun _ => both⟩
    · -- Any literal will do, as this number is not in the document.
      exact ⟨Number.integerLiteral 0, fun other => absurd other finite⟩
  choose lit both using literals
  have reads : ∀ n ∈ d.numbers, n.Reads (lit n) := fun n member => (both n (finite n member)).1
  exact ⟨lit, fun n finite => (both n finite).2, read?_text reads shallow blank⟩

end Document

/-- No control characters, and so no line breaks. -/
def Plain (cs : List Char) : Prop := ∀ c ∈ cs, ' ' ≤ c

theorem plain_append {cs cs' : List Char} : Plain (cs ++ cs') ↔ Plain cs ∧ Plain cs' :=
  List.forall_mem_append

theorem plain_cons {c : Char} {cs : List Char} : Plain (c :: cs) ↔ ' ' ≤ c ∧ Plain cs :=
  List.forall_mem_cons

theorem plain_of_digits {cs : List Char} (digits : cs.all Char.isDigit = true) : Plain cs := by
  intro c member
  have digit := List.all_eq_true.mp digits c member
  simp only [Char.isDigit, Bool.and_eq_true, decide_eq_true_eq, ge_iff_le] at digit
  exact UInt32.le_trans (show ' '.val ≤ '0'.val by decide) digit.1

theorem plain_decimalDigits (n : ℕ) : Plain (decimalDigits n) :=
  plain_of_digits (all_isDigit_decimalDigits n)

theorem plain_hexDigit (n : ℕ) : ' ' ≤ hexDigit n := by
  have digits : ∀ k < 16, ' ' ≤ (Nat.toDigits 16 k).headD '0' := by decide
  exact digits _ (Nat.mod_lt n (by decide))

theorem plain_jsonEscape (c : Char) : Plain (jsonEscape c) := by
  unfold jsonEscape
  split
  case h_8 =>
    split
    · simp [Plain, plain_hexDigit]
    · next printable => simpa [Plain] using printable
  all_goals simp [Plain]

theorem plain_jsonString (text : String) : Plain (jsonString text) := by
  simp only [jsonString, plain_append, plain_cons]
  refine ⟨⟨by decide, ?_⟩, by simp [Plain]⟩
  intro c member
  obtain ⟨d, -, escaped⟩ := List.mem_flatMap.mp member
  exact plain_jsonEscape d c escaped

theorem plain_signed {cs : List Char} (negative : Bool) (plain : Plain cs) :
    Plain (signed negative cs) := by
  cases negative with
  | false => exact plain
  | true => exact plain_cons.mpr ⟨by decide, plain⟩

theorem NumberText.Valid.plain {t : NumberText} (valid : t.Valid) : Plain t.chars := by
  have fraction : Plain t.fractionChars := by
    unfold fractionChars
    split
    · simp [Plain]
    · exact plain_cons.mpr ⟨by decide, plain_of_digits valid.fraction_digits⟩
  have exponent : Plain t.exponentChars := by
    unfold exponentChars
    split
    · simp [Plain]
    · next negative digits written =>
        have digits := plain_of_digits (valid.exponent_digits negative digits written).1
        refine plain_cons.mpr ⟨by decide, plain_cons.mpr ⟨?_, digits⟩⟩
        cases negative <;> decide
  exact plain_append.mpr ⟨plain_append.mpr ⟨plain_of_digits valid.whole_digits, fraction⟩, exponent⟩

theorem Number.plain_json (n : Number) : Plain n.json.toList := by
  cases n with
  | integer n =>
      rw [json, String.toList_ofList]
      exact plain_signed _ (plain_decimalDigits _)
  | float d =>
      cases d with
      | finite negative m =>
          obtain ⟨t, valid, chars, -⟩ := (Decimal.shortest .even m).writes_jsonNumber
          rw [json, Double.json, String.toList_ofList, chars]
          exact plain_signed _ valid.plain
      | _ =>
          show Plain "null".toList
          simp [Plain]

namespace Document

mutual

theorem plain_chars : ∀ d : Document, Plain d.chars
  | .null => by simp [Plain, chars]
  | .bool true => by simp [Plain, chars]
  | .bool false => by simp [Plain, chars]
  | .number n => n.plain_json
  | .string value => plain_jsonString value
  | .array items =>
      plain_append.mpr ⟨plain_cons.mpr ⟨by decide, plain_itemChars items⟩, by simp [Plain]⟩
  | .object members =>
      plain_append.mpr ⟨plain_cons.mpr ⟨by decide, plain_memberChars members⟩, by simp [Plain]⟩

theorem plain_itemChars : ∀ items : List Document, Plain (itemChars items)
  | [] => by simp [Plain, itemChars]
  | [v] => plain_chars v
  | v :: w :: rest =>
      plain_append.mpr ⟨plain_chars v, plain_cons.mpr ⟨by decide, plain_itemChars (w :: rest)⟩⟩

theorem plain_memberChars : ∀ members : List (String × Document), Plain (memberChars members)
  | [] => by simp [Plain, memberChars]
  | [(k, v)] => plain_append.mpr ⟨plain_jsonString k, plain_cons.mpr ⟨by decide, plain_chars v⟩⟩
  | (k, v) :: m :: rest =>
      plain_append.mpr
        ⟨plain_append.mpr ⟨plain_jsonString k, plain_cons.mpr ⟨by decide, plain_chars v⟩⟩,
          plain_cons.mpr ⟨by decide, plain_memberChars (m :: rest)⟩⟩

end

end Document
end SensorThresholds
