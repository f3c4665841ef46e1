import SensorThresholds.Json.Document

/-!
The grammar of JSON over tokens. A tree has its tokens, and the reader with its stack takes the
tokens of every tree that is not too deep, and no others. What it has taken so far can be read off
its state.
-/

namespace SensorThresholds
namespace Written

mutual

/-- The tokens of a tree. -/
def tokens : Written → List Token
  | .null => [.null]
  | .bool value => [.bool value]
  | .number l => [.number l]
  | .string value => [.string value]
  | .array items => .openArray :: (itemTokens items ++ [.closeArray])
  | .object members => .openObject :: (memberTokens members ++ [.closeObject])

def itemTokens : List Written → List Token
  | [] => []
  | [v] => tokens v
  | v :: rest => tokens v ++ .comma :: itemTokens rest

def memberTokens : List (String × Written) → List Token
  | [] => []
  | [(k, v)] => .string k :: .colon :: tokens v
  | (k, v) :: rest => .string k :: .colon :: (tokens v ++ .comma :: memberTokens rest)

end

mutual

/-- How many containers stand inside one another. -/
def depth : Written → Nat
  | .array items => itemDepth items + 1
  | .object members => memberDepth members + 1
  | _ => 0

def itemDepth : List Written → Nat
  | [] => 0
  | v :: rest => max (depth v) (itemDepth rest)

def memberDepth : List (String × Written) → Nat
  | [] => 0
  | (_, v) :: rest => max (depth v) (memberDepth rest)

end

/-- Items that others follow. -/
def openItems (items : List Written) : List Token := items.flatMap fun v => v.tokens ++ [.comma]

/-- Members that others follow. -/
def openMembers (members : List (String × Written)) : List Token :=
  members.flatMap fun (k, v) => .string k :: .colon :: (v.tokens ++ [.comma])

theorem itemTokens_cons (v : Written) {rest : List Written} (more : rest ≠ []) :
    itemTokens (v :: rest) = v.tokens ++ .comma :: itemTokens rest := by
  cases rest with
  | nil => exact absurd rfl more
  | cons w rest => rfl

theorem memberTokens_cons (k : String) (v : Written) {rest : List (String × Written)}
    (more : rest ≠ []) :
    memberTokens ((k, v) :: rest) =
      .string k :: .colon :: (v.tokens ++ .comma :: memberTokens rest) := by
  cases rest with
  | nil => exact absurd rfl more
  | cons w rest => rfl

theorem itemTokens_concat (items : List Written) (v : Written) :
    itemTokens (items ++ [v]) = openItems items ++ v.tokens := by
  induction items with
  | nil => rfl
  | cons w rest ih =>
      have more : rest ++ [v] ≠ [] := by simp
      rw [List.cons_append, itemTokens_cons w more, ih]
      simp [openItems]

theorem memberTokens_concat (members : List (String × Written)) (k : String) (v : Written) :
    memberTokens (members ++ [(k, v)]) =
      openMembers members ++ .string k :: .colon :: v.tokens := by
  induction members with
  | nil => rfl
  | cons m rest ih =>
      have more : rest ++ [(k, v)] ≠ [] := by simp
      rw [List.cons_append, memberTokens_cons m.1 m.2 more, ih]
      simp [openMembers]

theorem itemDepth_le_iff {items : List Written} {k : Nat} :
    itemDepth items ≤ k ↔ ∀ v ∈ items, v.depth ≤ k := by
  induction items with
  | nil => simp [itemDepth]
  | cons v rest ih => rw [itemDepth, Nat.max_le, List.forall_mem_cons, ih]

theorem memberDepth_le_iff {members : List (String × Written)} {k : Nat} :
    memberDepth members ≤ k ↔ ∀ m ∈ members, m.2.depth ≤ k := by
  induction members with
  | nil => simp [memberDepth]
  | cons m rest ih => rw [memberDepth, Nat.max_le, List.forall_mem_cons, ih]

/-- The tokens taken since a container was opened. -/
def Frame.tokens : Frame → List Token
  | .array items => .openArray :: openItems items.reverse
  | .object members key => .openObject :: (openMembers members.reverse ++ [.string key, .colon])

/-- What a container holds so far. -/
def Frame.values : Frame → List Written
  | .array items => items
  | .object members _ => members.map (·.2)

/-- The tokens taken for the containers that are open. -/
def stackTokens : List Frame → List Token
  | [] => []
  | frame :: stack => stackTokens stack ++ frame.tokens

/-- The containers that are open are not too many, and what they hold is not too deep for its place
among them. -/
def ShallowStack : List Frame → Prop
  | [] => True
  | frame :: stack => stack.length < depthLimit ∧
      (∀ v ∈ frame.values, v.depth + stack.length < depthLimit) ∧ ShallowStack stack

theorem ShallowStack.length_le {stack : List Frame} (shallow : ShallowStack stack) :
    stack.length ≤ depthLimit := by
  cases stack with
  | nil => exact Nat.zero_le _
  | cons frame stack => exact shallow.1

namespace State

/-- The tokens that the reader has taken. -/
def taken : State → List Token
  | value stack => stackTokens stack
  | itemOrEnd stack => stackTokens stack ++ [.openArray]
  | keyOrEnd stack => stackTokens stack ++ [.openObject]
  | key members stack => stackTokens stack ++ .openObject :: openMembers members.reverse
  | colon members k stack =>
    stackTokens stack ++ .openObject :: (openMembers members.reverse ++ [.string k])
  | commaOrEnd done stack => stackTokens stack ++ done.tokens

def Shallow : State → Prop
  | value stack => ShallowStack stack
  | itemOrEnd stack => ShallowStack (.array [] :: stack)
  | keyOrEnd stack => ShallowStack (.object [] "" :: stack)
  | key members stack => ShallowStack (.object members "" :: stack)
  | colon members k stack => ShallowStack (.object members k :: stack)
  | commaOrEnd done stack => done.depth + stack.length ≤ depthLimit ∧ ShallowStack stack

/-- The state after some tokens: they can be read off it, and nothing in it is too deep. -/
structure Reached (ts : List Token) (s : State) : Prop where
  taken : s.taken = ts
  shallow : s.Shallow

theorem reached_scalar {stack : List Frame} {v : Written} {t : Token} (tokens : v.tokens = [t])
    (flat : v.depth = 0) (shallow : ShallowStack stack) :
    Reached (stackTokens stack ++ [t]) (commaOrEnd v stack) where
  taken := by rw [taken, tokens]
  shallow := ⟨by rw [flat, Nat.zero_add]; exact shallow.length_le, shallow⟩

theorem shallowStack_opened {stack : List Frame} {frame : Frame} (empty : frame.values = [])
    (room : stack.length < depthLimit) (shallow : ShallowStack stack) :
    ShallowStack (frame :: stack) :=
  ⟨room, by simp [empty], shallow⟩

theorem reached_ofValue {stack : List Frame} {t : Token} {s : State} (shallow : ShallowStack stack)
    (next : ofValue stack t = some s) : Reached (stackTokens stack ++ [t]) s := by
  unfold ofValue at next
  split at next
  · cases next
    exact reached_scalar rfl rfl shallow
  · cases next
    exact reached_scalar rfl rfl shallow
  · cases next
    exact reached_scalar rfl rfl shallow
  · cases next
    exact reached_scalar rfl rfl shallow
  · obtain ⟨room, same⟩ := Option.ite_none_right_eq_some.mp next
    cases same
    exact ⟨rfl, shallowStack_opened rfl room shallow⟩
  · obtain ⟨room, same⟩ := Option.ite_none_right_eq_some.mp next
    cases same
    exact ⟨rfl, shallowStack_opened rfl room shallow⟩
  · cases next

/-- One more value in the container that was opened last. -/
theorem shallowStack_added {stack : List Frame} {frame frame' : Frame} {v : Written}
    (added : frame'.values = v :: frame.values)
    (shallow : v.depth + (frame :: stack).length ≤ depthLimit ∧ ShallowStack (frame :: stack)) :
    ShallowStack (frame' :: stack) := by
  obtain ⟨fits, room, held, outer⟩ := shallow
  refine ⟨room, ?_, outer⟩
  rw [added, List.forall_mem_cons]
  exact ⟨fits, held⟩

theorem depth_array_le {items : List Written} {n k : Nat} (room : n < k)
    (held : ∀ v ∈ items, v.depth + n < k) : depth (.array items) + n ≤ k := by
  have inner : itemDepth items ≤ k - n - 1 := itemDepth_le_iff.mpr fun v member => by
    have := held v member
    omega
  rw [depth]
  omega

theorem depth_object_le {members : List (String × Written)} {n k : Nat} (room : n < k)
    (held : ∀ m ∈ members, m.2.depth + n < k) : depth (.object members) + n ≤ k := by
  have inner : memberDepth members ≤ k - n - 1 := memberDepth_le_iff.mpr fun m member => by
    have := held m member
    omega
  rw [depth]
  omega

theorem Reached.step {ts : List Token} {s s' : State} {t : Token} (reached : Reached ts s)
    (next : s.step t = some s') : Reached (ts ++ [t]) s' := by
  obtain ⟨rfl, shallow⟩ := reached
  unfold State.step at next
  split at next
  · exact reached_ofValue shallow next
  · cases next
    refine ⟨?_, depth_array_le shallow.1 (by simp), shallow.2.2⟩
    simp [State.taken, tokens, itemTokens]
  · have reached := reached_ofValue shallow next
    simpa [State.taken, stackTokens, Frame.tokens, openItems] using reached
  · cases next
    refine ⟨?_, depth_object_le shallow.1 (by simp), shallow.2.2⟩
    simp [State.taken, tokens, memberTokens]
  · cases next
    exact ⟨by simp [State.taken, openMembers], shallow⟩
  · cases next
    exact ⟨by simp [State.taken], shallow⟩
  · cases next
    exact ⟨by simp [State.taken, stackTokens, Frame.tokens], shallow⟩
  · cases next
    refine ⟨?_, shallowStack_added rfl shallow⟩
    simp [State.taken, stackTokens, Frame.tokens, openItems]
  · next v items stack =>
      cases next
      obtain ⟨room, held, outer⟩ : ShallowStack (.array (v :: items) :: stack) :=
        shallowStack_added rfl shallow
      refine ⟨?_, depth_array_le room fun w member => held w (List.mem_reverse.mp member), outer⟩
      simp [State.taken, tokens, stackTokens, Frame.tokens, itemTokens_concat]
  · cases next
    refine ⟨?_, shallowStack_added rfl shallow⟩
    simp [State.taken, stackTokens, Frame.tokens, openMembers]
  · next v members k stack =>
      cases next
      obtain ⟨room, held, outer⟩ : ShallowStack (.object ((k, v) :: members) k :: stack) :=
        shallowStack_added rfl shallow
      refine ⟨?_, depth_object_le room fun m member =>
        held m.2 (List.mem_map_of_mem (List.mem_reverse.mp member)), outer⟩
      simp [State.taken, tokens, stackTokens, Frame.tokens, memberTokens_concat]
  · cases next

def run (s : State) (ts : List Token) : Option State := ts.foldlM step s

theorem run_cons {s s' : State} {t : Token} (next : s.step t = some s') (ts : List Token) :
    s.run (t :: ts) = s'.run ts := by
  rw [run, List.foldlM_cons, next]
  rfl

theorem Reached.run {ts more : List Token} {s s' : State} (reached : Reached ts s)
    (ran : s.run more = some s') : Reached (ts ++ more) s' := by
  induction more generalizing ts s with
  | nil =>
      cases ran
      rwa [List.append_nil]
  | cons t more ih =>
      cases next : s.step t with
      | none => simp [State.run, next] at ran
      | some s₁ =>
          rw [run_cons next] at ran
          rw [List.append_cons]
          exact ih (reached.step next) ran

theorem step_itemOrEnd {stack : List Frame} {t : Token} (item : t ≠ .closeArray) :
    step (.itemOrEnd stack) t = step (.value (.array [] :: stack)) t := by
  cases t <;> first | rfl | exact absurd rfl item

theorem run_openArray {stack : List Frame} (room : stack.length < depthLimit) (ts : List Token) :
    run (.value stack) (.openArray :: ts) = run (.itemOrEnd stack) ts :=
  run_cons (by rw [step, ofValue, if_pos room]) ts

theorem run_openObject {stack : List Frame} (room : stack.length < depthLimit) (ts : List Token) :
    run (.value stack) (.openObject :: ts) = run (.keyOrEnd stack) ts :=
  run_cons (by rw [step, ofValue, if_pos room]) ts

end State

theorem exists_head_tokens (v : Written) :
    ∃ t rest, v.tokens = t :: rest ∧ t ≠ .closeArray := by
  cases v <;> exact ⟨_, _, rfl, by simp⟩

/-- The first item of an array is read like any other value. -/
theorem run_itemOrEnd (v : Written) (stack : List Frame) (rest : List Token) :
    State.run (.itemOrEnd stack) (v.tokens ++ rest) =
      State.run (.value (.array [] :: stack)) (v.tokens ++ rest) := by
  obtain ⟨t, left, first, item⟩ := v.exists_head_tokens
  rw [first, List.cons_append, State.run, State.run, List.foldlM_cons, List.foldlM_cons,
    State.step_itemOrEnd item]

theorem exists_itemTokens (v : Written) (items : List Written) :
    ∃ rest, itemTokens (v :: items) = v.tokens ++ rest := by
  cases items with
  | nil => exact ⟨[], (List.append_nil _).symm⟩
  | cons w items => exact ⟨_, rfl⟩

mutual

/-- The tokens of a tree take the reader from the state before a value to the one after it. -/
theorem run_tokens :
    ∀ (v : Written) (stack : List Frame) (rest : List Token), v.depth + stack.length ≤ depthLimit →
      State.run (.value stack) (v.tokens ++ rest) = State.run (.commaOrEnd v stack) rest
  | .null, _, _, _ => rfl
  | .bool _, _, _, _ => rfl
  | .number _, _, _, _ => rfl
  | .string _, _, _, _ => rfl
  | .array [], stack, rest, shallow => by
      simp only [depth] at shallow
      exact State.run_openArray (by omega) _
  | .array (v :: items), stack, rest, shallow => by
      simp only [depth] at shallow
      obtain ⟨others, first⟩ := exists_itemTokens v items
      have inner := run_itemTokens (v :: items) [] stack rest (List.cons_ne_nil v items) (by omega)
      show State.run (.value stack) (.openArray :: (_ ++ _ ++ rest)) = _
      rw [State.run_openArray (by omega), List.append_assoc, first, List.append_assoc,
        run_itemOrEnd, ← List.append_assoc, ← first]
      exact inner
  | .object [], stack, rest, shallow => by
      simp only [depth] at shallow
      exact State.run_openObject (by omega) _
  | .object ((k, v) :: members), stack, rest, shallow => by
      simp only [depth] at shallow
      have inner := run_memberTokens ((k, v) :: members) [] stack rest
        (List.cons_ne_nil (k, v) members) (by omega)
      show State.run (.value stack) (.openObject :: (_ ++ _ ++ rest)) = _
      rw [State.run_openObject (by omega), List.append_assoc]
      cases members <;> exact inner

/-- The items of an array take the reader behind the array, whatever items were before them. -/
theorem run_itemTokens :
    ∀ (items done : List Written) (stack : List Frame) (rest : List Token),
      items ≠ [] → itemDepth items + stack.length < depthLimit →
        State.run (.value (.array done :: stack)) (itemTokens items ++ .closeArray :: rest) =
          State.run (.commaOrEnd (.array (done.reverse ++ items)) stack) rest
  | [v], done, stack, rest, _, shallow => by
      simp only [itemDepth] at shallow
      have value := run_tokens v (.array done :: stack) (.closeArray :: rest)
        (by rw [List.length_cons]; omega)
      have close : State.step (.commaOrEnd v (.array done :: stack)) .closeArray =
          some (.commaOrEnd (.array (v :: done).reverse) stack) := rfl
      rw [State.run_cons close, List.reverse_cons] at value
      exact value
  | v :: w :: items, done, stack, rest, _, shallow => by
      simp only [itemDepth] at shallow
      have value := run_tokens v (.array done :: stack)
        (.comma :: (itemTokens (w :: items) ++ .closeArray :: rest))
        (by rw [List.length_cons]; omega)
      have comma : State.step (.commaOrEnd v (.array done :: stack)) .comma =
          some (.value (.array (v :: done) :: stack)) := rfl
      have others := run_itemTokens (w :: items) (v :: done) stack rest (List.cons_ne_nil w items)
        (by simp only [itemDepth]; omega)
      rw [State.run_cons comma, others, List.reverse_cons, List.append_assoc] at value
      show State.run _ (_ ++ .comma :: _ ++ _) = _
      rw [List.append_assoc]
      exact value

/-- As for the items of an array. -/
theorem run_memberTokens :
    ∀ (members done : List (String × Written)) (stack : List Frame) (rest : List Token),
      members ≠ [] → memberDepth members + stack.length < depthLimit →
        State.run (.key done stack) (memberTokens members ++ .closeObject :: rest) =
          State.run (.commaOrEnd (.object (done.reverse ++ members)) stack) rest
  | [(k, v)], done, stack, rest, _, shallow => by
      simp only [memberDepth] at shallow
      have value := run_tokens v (.object done k :: stack) (.closeObject :: rest)
        (by rw [List.length_cons]; omega)
      have close : State.step (.commaOrEnd v (.object done k :: stack)) .closeObject =
          some (.commaOrEnd (.object ((k, v) :: done).reverse) stack) := rfl
      rw [State.run_cons close, List.reverse_cons] at value
      exact value
  | (k, v) :: m :: members, done, stack, rest, _, shallow => by
      simp only [memberDepth] at shallow
      have value := run_tokens v (.object done k :: stack)
        (.comma :: (memberTokens (m :: members) ++ .closeObject :: rest))
        (by rw [List.length_cons]; omega)
      have comma : State.step (.commaOrEnd v (.object done k :: stack)) .comma =
          some (.key ((k, v) :: done) stack) := rfl
      have others := run_memberTokens (m :: members) ((k, v) :: done) stack rest
        (List.cons_ne_nil m members) (by simp only [memberDepth]; omega)
      rw [State.run_cons comma, others, List.reverse_cons, List.append_assoc] at value
      show State.run _ (.string k :: .colon :: (_ ++ .comma :: _ ++ _)) = _
      rw [List.append_assoc]
      exact value

end

/-- Tokens are read as a tree exactly if they are its tokens and it is not too deep. -/
theorem ofTokens?_eq_some_iff {ts : List Token} {v : Written} :
    ofTokens? ts = some v ↔ v.tokens = ts ∧ v.depth ≤ depthLimit := by
  rw [ofTokens?, ← State.run]
  constructor
  · split
    · next w ran =>
        intro same
        obtain rfl := Option.some.inj same
        have start : State.Reached [] (.value []) := ⟨rfl, trivial⟩
        obtain ⟨taken, shallow, -⟩ := start.run ran
        exact ⟨taken, shallow⟩
    · nofun
  · rintro ⟨rfl, shallow⟩
    have ran := run_tokens v [] [] shallow
    rw [List.append_nil] at ran
    rw [ran]
    rfl

end Written

/-- The document that a text denotes: the text's tokens are those of a tree that is not too deep,
and the document is the tree's with its literals as numbers, none of them too large. -/
def Document.Denoted (text : String) (d : Document) : Prop :=
  ∃ tree : Written, Token.all? text.toList = some tree.tokens ∧ tree.depth ≤ Written.depthLimit ∧
    ofWritten? tree = some d

theorem Document.read?_eq_some_iff {text : String} {d : Document} :
    read? text = some d ↔ Denoted text d := by
  rw [read?, Written.read?, Option.bind_assoc, Option.bind_eq_some_iff]
  constructor
  · rintro ⟨ts, tokens, found⟩
    obtain ⟨tree, parsed, denotes⟩ := Option.bind_eq_some_iff.mp found
    obtain ⟨rfl, shallow⟩ := Written.ofTokens?_eq_some_iff.mp parsed
    exact ⟨tree, tokens, shallow, denotes⟩
  · rintro ⟨tree, tokens, shallow, denotes⟩
    have parsed := Written.ofTokens?_eq_some_iff.mpr ⟨rfl, shallow⟩
    exact ⟨_, tokens, Option.bind_eq_some_iff.mpr ⟨tree, parsed, denotes⟩⟩

theorem Document.read?_eq_none_iff {text : String} :
    read? text = none ↔ ¬ ∃ d, Denoted text d := by
  simp only [Option.eq_none_iff_forall_ne_some, ne_eq, read?_eq_some_iff, not_exists]

end SensorThresholds
