import SensorThresholds.Proofs.AbsolutePaths
import Mathlib.Data.List.TakeWhile

/-!
Addresses with plain paths. A path of slashes, letters, digits, hyphens and underscores has nothing
in it that an address escapes, drops or ends at, and is requested as it stands.
-/

namespace SensorThresholds

namespace Url

/-- A slash, a letter, a digit, a hyphen or an underscore, all of them ASCII. -/
def isPlain (c : Char) : Bool := c == '/' || c == '-' || c == '_' || c.isAlphanum

/-- A character of a host that no other part of an address starts with. -/
def inHost (c : Char) : Bool := ' ' < c && !endsAuthority c && c ≠ '@'

theorem isPlain_iff (c : Char) :
    isPlain c = true ↔ c = '/' ∨ c = '-' ∨ c = '_' ∨ (65 ≤ c.toNat ∧ c.toNat ≤ 90) ∨
      (97 ≤ c.toNat ∧ c.toNat ≤ 122) ∨ (48 ≤ c.toNat ∧ c.toNat ≤ 57) := by
  unfold isPlain
  delta Char.isAlphanum Char.isAlpha Char.isUpper Char.isLower Char.isDigit
  simp [UInt32.le_iff_toNat_le, or_assoc]

theorem visible_of_isPlain {c : Char} (plain : isPlain c = true) : ' ' < c ∧ c ≤ '\x7e' := by
  rw [Char.lt_def, Char.le_def, UInt32.lt_iff_toNat_lt, UInt32.le_iff_toNat_le]
  show 32 < c.toNat ∧ c.toNat ≤ 126
  rcases (isPlain_iff c).mp plain with rfl | rfl | rfl | range | range | range
  · decide
  · decide
  · decide
  · omega
  · omega
  · omega

theorem ne_of_isPlain {c : Char} (plain : isPlain c = true) {other : Char}
    (odd : isPlain other = false) : c ≠ other := by
  rintro rfl
  rw [plain] at odd
  cases odd

/-- Plain characters stay plain in lower case. -/
theorem isPlain_toLower {c : Char} (plain : isPlain c = true) : isPlain c.toLower = true := by
  unfold Char.toLower
  split
  · next upper =>
      have range : 65 ≤ c.toNat ∧ c.toNat ≤ 90 := by
        simpa [UInt32.le_iff_toNat_le] using upper
      have lowered : (c.val + ('a'.val - 'A'.val)).toNat = c.toNat + 32 := by
        show (c.toNat + 32) % 4294967296 = c.toNat + 32
        omega
      rw [isPlain_iff]
      refine .inr (.inr (.inr (.inr (.inl ?_))))
      show 97 ≤ (c.val + ('a'.val - 'A'.val)).toNat ∧ (c.val + ('a'.val - 'A'.val)).toNat ≤ 122
      omega
  · exact plain

theorem escapeChar_of_isPlain {reserved : List Char} (odd : reserved.any isPlain = false)
    {c : Char} (plain : isPlain c = true) : escapeChar reserved c = [c] := by
  obtain ⟨above, below⟩ := visible_of_isPlain plain
  have free : c ∉ reserved := fun member => List.any_eq_false.mp odd c member plain
  rw [escapeChar, if_neg]
  simp [above, below, free]

theorem escapePath_of_isPlain {segment : List Char} (plain : ∀ c ∈ segment, isPlain c = true) :
    escapePath segment = segment := by
  induction segment with
  | nil => rfl
  | cons c rest ih =>
      obtain ⟨first, others⟩ := List.forall_mem_cons.mp plain
      rw [escapePath, List.flatMap_cons, ← escapePath, ih others,
        escapeChar_of_isPlain (by decide) first, List.singleton_append]

theorem segments_cons (c : Char) (rest : List Char) :
    segments (c :: rest) = match segments rest with
      | [] => [[c]]
      | first :: others =>
        if isSlash c then [] :: first :: others else (c :: first) :: others := rfl

/-- The segments of a path with upright slashes make it up again. -/
theorem flatMap_segments {path : List Char} (upright : '\\' ∉ path) :
    (segments path).flatMap ('/' :: ·) = '/' :: path := by
  induction path with
  | nil => rfl
  | cons c rest ih =>
      obtain ⟨straight, others⟩ := List.ne_and_not_mem_of_not_mem_cons upright
      have again := ih others
      rw [segments_cons]
      cases parts : segments rest with
      | nil => simp [parts] at again
      | cons first more =>
          rw [parts, List.flatMap_cons, List.cons_append, List.cons.injEq] at again
          by_cases slash : c = '/'
          · simp [slash, isSlash, again.2]
          · have kept : isSlash c = false := by simp [isSlash, slash, Ne.symm straight]
            simp [kept, again.2]

theorem mem_segments {path segment : List Char} (member : segment ∈ segments path) :
    ∀ c ∈ segment, c ∈ path := by
  induction path generalizing segment with
  | nil => simp_all [segments, splitWhere]
  | cons c rest ih =>
      have later : ∀ segment ∈ segments rest, ∀ d ∈ segment, d ∈ c :: rest :=
        fun segment inside d found => List.mem_cons_of_mem c (ih inside d found)
      rw [segments_cons] at member
      cases parts : segments rest with
      | nil => simp_all
      | cons first more =>
          rw [parts] at member later
          obtain ⟨head, others⟩ := List.forall_mem_cons.mp later
          dsimp only at member
          split at member
          · rcases List.mem_cons.mp member with rfl | member
            · simp
            · exact later segment member
          · rcases List.mem_cons.mp member with rfl | member
            · exact List.forall_mem_cons.mpr ⟨List.mem_cons_self, head⟩
            · exact others segment member

theorem not_dots_of_isPlain {segment : List Char} (plain : ∀ c ∈ segment, isPlain c = true) :
    isDot segment = false ∧ isDoubleDot segment = false := by
  -- All the spellings of dots start with a character that is not plain.
  have different : ∀ text : String, (text.toList.head?.any (!isPlain ·)) = true →
      (String.ofList segment).toLower ≠ text := by
    rintro text odd rfl
    have lowered : (String.ofList segment).toLower.toList = segment.map Char.toLower := by
      delta String.toLower
      rw [String.toList_map, String.toList_ofList]
    rw [lowered] at odd
    cases segment with
    | nil => cases odd
    | cons c rest => simp [isPlain_toLower (plain c List.mem_cons_self)] at odd
  have spelled {texts : List String}
      (odd : ∀ text ∈ texts, (text.toList.head?.any (!isPlain ·)) = true) :
      texts.contains (String.ofList segment).toLower = false := by
    rw [List.contains_eq_mem, decide_eq_false_iff_not]
    exact fun member => different _ (odd _ member) rfl
  exact ⟨spelled (by decide), spelled (by decide)⟩

theorem resolveDots_of_plain {parts : List (List Char)} (walked : List (List Char))
    (plain : ∀ segment ∈ parts, ∀ c ∈ segment, isPlain c = true) :
    resolveDots walked parts = walked.reverse ++ parts := by
  induction parts generalizing walked with
  | nil => simp [resolveDots]
  | cons segment rest ih =>
      obtain ⟨first, others⟩ := List.forall_mem_cons.mp plain
      obtain ⟨single, double⟩ := not_dots_of_isPlain first
      simp [resolveDots, single, double, ih _ others]

/-- A plain path is requested as it stands. -/
theorem requestPath_of_isPlain {path : List Char} (plain : ∀ c ∈ path, isPlain c = true) :
    requestPath ('/' :: path) = '/' :: path := by
  have upright : '\\' ∉ path := fun member => ne_of_isPlain (plain _ member) (by decide) rfl
  have again := flatMap_segments upright
  have parts : (segments ('/' :: path)).drop 1 = segments path := by
    rw [segments_cons]
    cases found : segments path with
    | nil => simp [found] at again
    | cons first more => rfl
  have nonempty : (segments path).isEmpty = false := by
    cases found : segments path with
    | nil => simp [found] at again
    | cons first more => rfl
  have segment : ∀ segment ∈ segments path, ∀ c ∈ segment, isPlain c = true :=
    fun segment member c inside => plain c (mem_segments member c inside)
  have each : (segments path).flatMap (fun segment => '/' :: escapePath segment) =
      (segments path).flatMap ('/' :: ·) := by
    rw [List.flatMap_def, List.flatMap_def]
    congr 1
    apply List.map_congr_left
    intro other member
    rw [escapePath_of_isPlain (segment other member)]
  simp only [requestPath, parts, nonempty, Bool.false_eq_true, if_false]
  rw [resolveDots_of_plain [] segment, List.reverse_nil, List.nil_append, each, again]

theorem clean_of_visible {text : List Char} (visible : ∀ c ∈ text, ' ' < c) :
    clean text = text := by
  have kept : text.filter (fun c => c ≠ '\t' && c ≠ '\n' && c ≠ '\r') = text := by
    rw [List.filter_eq_self]
    intro c member
    have above := visible c member
    have apart {d : Char} (low : ¬ ' ' < d) : c ≠ d := fun same => low (same ▸ above)
    simp [apart (show ¬ ' ' < '\t' by decide), apart (show ¬ ' ' < '\n' by decide),
      apart (show ¬ ' ' < '\r' by decide)]
  have start {text : List Char} (visible : ∀ c ∈ text, ' ' < c) :
      text.dropWhile (· ≤ ' ') = text := by
    cases text with
    | nil => rfl
    | cons c rest => exact List.dropWhile_cons_of_neg (by simp [visible c List.mem_cons_self])
  rw [clean, kept, start visible, start (by simpa using visible), List.reverse_reverse]

theorem ofRest?_of_isPlain {scheme : String} {host path : List Char}
    (named : host ≠ []) (within : ∀ c ∈ host, inHost c = true)
    (plain : ∀ c ∈ path, isPlain c = true) :
    ofRest? scheme ('/' :: '/' :: (host ++ '/' :: path)) =
      (hostAndPort? scheme host).map fun (name, port) =>
        ⟨scheme, name, port, .ofList ('/' :: path)⟩ := by
  have upright : ∀ c ∈ host, endsAuthority c = false ∧ c ≠ '@' := by
    intro c member
    have inside := within c member
    simp only [inHost, Bool.and_eq_true, Bool.not_eq_true', decide_eq_true_eq] at inside
    exact ⟨inside.1.2, inside.2⟩
  have rooted : ∀ c ∈ '/' :: path, isPlain c = true := List.forall_mem_cons.mpr ⟨rfl, plain⟩
  have whole {d : Char} (odd : isPlain d = false) :
      ∀ c ∈ '/' :: path, decide (c ≠ d) = true :=
    fun c member => decide_eq_true (ne_of_isPlain (rooted c member) odd)
  have start : ('/' :: '/' :: (host ++ '/' :: path)).dropWhile isSlash = host ++ '/' :: path := by
    cases host with
    | nil => exact absurd rfl named
    | cons c others =>
        have straight := (upright c List.mem_cons_self).1
        rw [endsAuthority, Bool.or_eq_false_iff, Bool.or_eq_false_iff] at straight
        rw [List.dropWhile_cons_of_pos rfl, List.dropWhile_cons_of_pos rfl, List.cons_append,
          List.dropWhile_cons_of_neg (by simp [straight.1.1])]
  have authority : ∀ c ∈ host, (!endsAuthority c) = true :=
    fun c member => by rw [(upright c member).1]; rfl
  have user : host.reverse.takeWhile (· ≠ '@') = host.reverse :=
    List.takeWhile_eq_self_iff.mpr fun c member =>
      decide_eq_true (upright c (List.mem_reverse.mp member)).2
  simp only [ofRest?]
  rw [start, List.takeWhile_append_of_pos authority, List.dropWhile_append_of_pos authority,
    List.takeWhile_cons_of_neg (by decide), List.dropWhile_cons_of_neg (by decide),
    List.append_nil, user, List.reverse_reverse,
    List.takeWhile_eq_self_iff.mpr (whole (by decide)),
    List.takeWhile_eq_self_iff.mpr (whole (by decide)),
    List.dropWhile_eq_nil_iff.mpr (whole (by decide)), requestPath_of_isPlain plain, escapeQuery,
    List.flatMap_nil, List.append_nil]

end Url

/-- An absolute path of plain characters. -/
structure IsPlainPath (path : String) : Prop where
  absolute : IsAbsolute path
  plain : ∀ c ∈ path.toList, Url.isPlain c = true

instance (path : String) : Decidable (IsPlainPath path) :=
  decidable_of_iff (IsAbsolute path ∧ path.toList.all Url.isPlain = true)
    ⟨fun ⟨absolute, plain⟩ => ⟨absolute, List.all_eq_true.mp plain⟩,
      fun ⟨absolute, plain⟩ => ⟨absolute, List.all_eq_true.mpr plain⟩⟩

/-- The client's scheme and host make the start of an address, at which its peer has this name and
port. -/
structure Client.Addresses (c : Client) (name : String) (port : Nat) : Prop where
  scheme : c.scheme = "http" ∨ c.scheme = "https"
  host : ∀ x ∈ c.host.toList, Url.inHost x = true
  reads : Url.hostAndPort? c.scheme c.host.toList = some (name, port)

theorem Client.Addresses.host_ne_nil {c : Client} {name : String} {port : Nat}
    (addresses : c.Addresses name port) : c.host.toList ≠ [] := by
  intro empty
  have unnamed : Host.read? [] = none := by decide +kernel
  have reads := addresses.reads
  simp [empty, Url.hostAndPort?, Url.splitHost, unnamed] at reads

/-- Of an address with a plain path nothing is left out or changed. -/
theorem Client.Addresses.parse?_url {c : Client} {name : String} {port : Nat}
    (addresses : c.Addresses name port) {path : String} (plain : IsPlainPath path) :
    Url.parse? (c.url path) = some ⟨c.scheme, name, port, path⟩ := by
  obtain ⟨rest, rooted⟩ := List.head?_eq_some_iff.mp plain.absolute
  have inPath := plain.plain
  rw [rooted] at inPath
  have letters : ∀ x ∈ c.scheme.toList, ' ' < x ∧ decide (x ≠ ':') = true := by
    have all : c.scheme.toList.all (fun x => ' ' < x && x ≠ ':') = true := by
      rcases addresses.scheme with scheme | scheme
      · rw [scheme]
        decide
      · rw [scheme]
        decide
    simpa using all
  have spelled : (c.url path).toList =
      c.scheme.toList ++ ':' :: '/' :: '/' :: (c.host.toList ++ '/' :: rest) := by
    simp [Client.url, rooted, toString, List.append_assoc]
  have visible : ∀ x ∈ (c.url path).toList, ' ' < x := by
    intro x member
    simp only [spelled, List.mem_append, List.mem_cons] at member
    rcases member with inScheme | rfl | rfl | rfl | inHost | other
    · exact (letters x inScheme).1
    · decide
    · decide
    · decide
    · have inside := addresses.host x inHost
      simp only [Url.inHost, Bool.and_eq_true, decide_eq_true_eq] at inside
      exact inside.1.1
    · exact (Url.visible_of_isPlain (inPath x (by simpa using other))).1
  have read : Url.ofRest? c.scheme ('/' :: '/' :: (c.host.toList ++ '/' :: rest)) =
      some ⟨c.scheme, name, port, path⟩ := by
    rw [Url.ofRest?_of_isPlain addresses.host_ne_nil addresses.host
      (List.forall_mem_cons.mp inPath).2, addresses.reads, ← rooted, String.ofList_toList]
    rfl
  have lowered : c.scheme.toList.map Char.toLower = c.scheme.toList := by
    rcases addresses.scheme with scheme | scheme
    · rw [scheme]
      decide
    · rw [scheme]
      decide
  simp only [Url.parse?]
  rw [Url.clean_of_visible visible, spelled,
    List.takeWhile_append_of_pos fun x member => (letters x member).2,
    List.dropWhile_append_of_pos fun x member => (letters x member).2,
    List.takeWhile_cons_of_neg (by decide), List.dropWhile_cons_of_neg (by decide),
    List.append_nil, lowered, String.ofList_toList]
  exact (if_pos addresses.scheme).trans read

end SensorThresholds
