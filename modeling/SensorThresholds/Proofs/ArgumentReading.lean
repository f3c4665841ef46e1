import SensorThresholds.Arguments.Reading

/-!
What is relied on where a command line is taken apart, and that reading it from left to right does
all of this. Each option and each text adds to what was found the same, wherever it stands.
-/

namespace SensorThresholds

/-- What one more text or option adds. -/
inductive Takes (command : Command) (m : Matches) : List String → Matches → Prop
  /-- A text stands for the first name without one. -/
  | positional {name text : String} (next : command.next? m = some name)
      (plain : text.toList.head? ≠ some '-') : Takes command m [text] (m.given name text)
  | flag {flag : Flag} (known : flag ∈ command.flags) :
      Takes command m ["--" ++ flag.long] (m.counted flag.long)
  /-- Letters may share a dash, and each of them counts. -/
  | letters {flags : List Flag} (known : ∀ flag ∈ flags, flag ∈ command.flags)
      (nonempty : flags ≠ []) :
      Takes command m [.ofList ('-' :: flags.map Flag.short)]
        (flags.foldl (fun m flag => m.counted flag.long) m)
  | apart {choice : Choice} {value : String} (known : choice ∈ command.choices)
      (possible : value ∈ choice.values) (plain : value.toList.head? ≠ some '-')
      (once : m.value choice.long = none) :
      Takes command m ["--" ++ choice.long, value] (m.given choice.long value)
  | joined {choice : Choice} {value : String} (known : choice ∈ command.choices)
      (possible : value ∈ choice.values) (once : m.value choice.long = none) :
      Takes command m ["--" ++ choice.long ++ "=" ++ value] (m.given choice.long value)

/-- What is found on a command line that is right as far as it goes. -/
inductive Reads (command : Command) : List String → Matches → Prop
  | nil : Reads command [] .empty
  | snoc {before words : List String} {m m' : Matches} (reads : Reads command before m)
      (takes : Takes command m words m') : Reads command (before ++ words) m'

/-- What a reader of command lines promises for a command. -/
structure CommandReader.Documented (parse : CommandReader) (command : Command) : Prop where
  /-- With all its texts there, a command line that is right is read, and a choice that was not made
  is its default. -/
  complete : ∀ {words m}, Reads command words m → command.next? m = none →
    parse command words = .ok (m.withDefaults command)
  /-- All of the texts are required. -/
  missing : ∀ {words m name}, Reads command words m → command.next? m = some name →
    ∃ fault, parse command words = .error (.refused fault)
  /-- There is no name for one more text. -/
  unexpected : ∀ {before m text after}, Reads command before m → command.next? m = none →
    text.toList.head? ≠ some '-' →
    ∃ fault, parse command (before ++ text :: after) = .error (.refused fault)

namespace Reading

variable {r s : Reading} {m m' : Matches} {words : List String} {text : String}

/-- What is found with the pending format counted in. -/
def Settles (r : Reading) (m : Matches) : Prop := r.settle = .ok ⟨m, .none⟩

theorem settles_found (m : Matches) : Settles ⟨m, .none⟩ m := rfl

theorem next?_given_format (m : Matches) (value : String) :
    Arguments.command.next? (m.given "format" value) = Arguments.command.next? m := by
  simp [Command.next?, Arguments.command, Matches.given, List.find?_cons]

/-- Judging a format changes nothing about the texts. -/
theorem Settles.keeps (settles : r.Settles m) :
    Arguments.command.next? r.found = Arguments.command.next? m ∧ r.pending ≠ .awaited := by
  unfold Settles settle at settles
  split at settles
  · obtain rfl := Except.ok.inj settles
    exact ⟨rfl, by simp⟩
  · cases settles
  · next value given =>
      split at settles
      · cases settles
      · split at settles
        · obtain rfl : r.found.given "format" value = m :=
            congrArg Reading.found (Except.ok.inj settles)
          exact ⟨(next?_given_format ..).symm, by simp [given]⟩
        · cases settles

theorem settles_given (absent : m.value "format" = none) {value : String}
    (possible : value ∈ ["text", "json"]) :
    Settles ⟨m, .given value⟩ (m.given "format" value) := by
  have known : (OutputFormat.ofName? value).isSome := by
    revert value
    decide
  simp only [Settles, settle, absent, known]
  rfl

theorem countVerbose_eq (settles : r.Settles m) :
    r.countVerbose = .ok ⟨m.counted "verbose", .none⟩ := by
  rw [countVerbose, settles]
  rfl

theorem takeLetters_eq (settles : r.Settles m) {flags : List Flag}
    (known : ∀ flag ∈ flags, flag = ⟨"verbose", 'v'⟩) (nonempty : flags ≠ []) :
    (flags.map Flag.short).foldlM takeLetter r =
      .ok ⟨flags.foldl (fun m flag => m.counted flag.long) m, .none⟩ := by
  induction flags generalizing r m with
  | nil => exact absurd rfl nonempty
  | cons flag flags ih =>
      obtain ⟨rfl, others⟩ := List.forall_mem_cons.mp known
      rw [List.map_cons, List.foldlM_cons, takeLetter, if_pos rfl, countVerbose_eq settles]
      cases flags with
      | nil => rfl
      | cons => exact ih (settles_found _) others (List.cons_ne_nil _ _)

theorem take_text (plain : text.toList.head? ≠ some '-') : r.take text = r.takeValue text := by
  unfold take
  split
  · next shape => simp [shape] at plain
  · next shape => simp [shape] at plain
  · rfl

theorem take_letters {flags : List Flag} (known : ∀ flag ∈ flags, flag = ⟨"verbose", 'v'⟩)
    (nonempty : flags ≠ []) :
    r.take (.ofList ('-' :: flags.map Flag.short)) =
      (flags.map Flag.short).foldlM takeLetter r := by
  cases flags with
  | nil => exact absurd rfl nonempty
  | cons flag flags =>
      obtain rfl := (List.forall_mem_cons.mp known).1
      rw [take, String.toList_ofList]
      rfl

theorem take_format (settles : r.Settles m) : r.take "--format" = .ok ⟨m, .awaited⟩ := by
  show (do let r ← r.settle; return { r with pending := .awaited }) = _
  rw [settles]
  rfl

theorem take_joined (settles : r.Settles m) (absent : m.value "format" = none) {value : String}
    (possible : value ∈ ["text", "json"]) :
    r.take ("--" ++ "format" ++ "=" ++ value) = .ok ⟨m.given "format" value, .none⟩ := by
  have judged : r.take ("--" ++ "format" ++ "=" ++ value) =
      (do let r ← r.settle; settle { r with pending := .given value }) := by
    obtain rfl | rfl : value = "text" ∨ value = "json" := by simpa using possible
    all_goals rfl
  rw [judged, settles]
  exact settles_given absent possible

/-- One more text or option is read as it is documented. -/
theorem takes (step : Takes Arguments.command m words m') (settles : r.Settles m) :
    ∃ r', words.foldlM take r = .ok r' ∧ r'.Settles m' := by
  obtain ⟨next, awaited⟩ := settles.keeps
  cases step with
  | positional found plain =>
      refine ⟨_, ?_, settles_found _⟩
      rw [List.foldlM_cons, take_text plain, takeValue, if_neg awaited, takePositional, next, found]
      show (do let r ← r.settle; _) >>= _ = _
      rw [settles]
      rfl
  | flag known =>
      obtain rfl := List.mem_singleton.mp known
      refine ⟨_, ?_, settles_found _⟩
      rw [List.foldlM_cons]
      show r.countVerbose >>= _ = _
      rw [countVerbose_eq settles]
      rfl
  | letters known nonempty =>
      have verbose := fun flag member => List.mem_singleton.mp (known flag member)
      refine ⟨_, ?_, settles_found _⟩
      rw [List.foldlM_cons, take_letters verbose nonempty, takeLetters_eq settles verbose nonempty]
      rfl
  | apart known possible plain once =>
      obtain rfl := List.mem_singleton.mp known
      refine ⟨_, ?_, settles_given once possible⟩
      rw [List.foldlM_cons]
      show r.take "--format" >>= _ = _
      rw [take_format settles]
      show take _ _ >>= pure = _
      rw [take_text plain]
      rfl
  | joined known possible once =>
      obtain rfl := List.mem_singleton.mp known
      refine ⟨_, ?_, settles_found _⟩
      rw [List.foldlM_cons, take_joined settles once possible]
      rfl

theorem reads (line : Reads Arguments.command words m) :
    ∃ r, words.foldlM take empty = .ok r ∧ r.Settles m := by
  induction line with
  | nil => exact ⟨empty, rfl, rfl⟩
  | snoc _ step ih =>
      obtain ⟨r, read, settles⟩ := ih
      obtain ⟨r', last, settles'⟩ := takes step settles
      refine ⟨r', ?_, settles'⟩
      rw [List.foldlM_append, read]
      exact last

theorem ne_dashes_of_plain (plain : text.toList.head? ≠ some '-') : text ≠ "--" := by
  rintro rfl
  exact plain rfl

/-- No text or option ends the options. -/
theorem ne_dashes (step : Takes Arguments.command m words m') :
    ∀ word ∈ words, word ≠ "--" := by
  cases step with
  | positional _ plain => simpa using ne_dashes_of_plain plain
  | flag known =>
      obtain rfl := List.mem_singleton.mp known
      decide
  | @letters flags known nonempty =>
      rw [List.forall_mem_singleton]
      intro same
      have letters := congrArg String.toList same
      cases step : flags with
      | nil => exact nonempty step
      | cons flag flags =>
          obtain rfl := List.mem_singleton.mp (known flag (by simp [step]))
          simp [step] at letters
  | apart known possible plain once =>
      obtain rfl := List.mem_singleton.mp known
      simpa using ne_dashes_of_plain plain
  | joined known possible once =>
      obtain rfl := List.mem_singleton.mp known
      rw [List.forall_mem_singleton]
      obtain rfl | rfl := by simpa using possible
      all_goals decide

theorem takeAll_cons {word : String} (other : word ≠ "--") (rest : List String) :
    r.takeAll (word :: rest) = (do let r ← r.take word; r.takeAll rest) := by
  rw [takeAll]
  exact other

theorem takeAll_append (others : ∀ word ∈ words, word ≠ "--") (rest : List String) :
    r.takeAll (words ++ rest) = (do let r ← words.foldlM take r; r.takeAll rest) := by
  induction words generalizing r with
  | nil => rfl
  | cons word words ih =>
      obtain ⟨first, others⟩ := List.forall_mem_cons.mp others
      rw [List.cons_append, takeAll_cons first, List.foldlM_cons]
      cases taken : r.take word with
      | error stop => rfl
      | ok r' => exact ih others

theorem takeAll_reads (line : Reads Arguments.command words m) :
    ∃ r : Reading, r.Settles m ∧ ∀ rest, empty.takeAll (words ++ rest) = r.takeAll rest := by
  have others : ∀ word ∈ words, word ≠ "--" := by
    induction line with
    | nil => exact List.forall_mem_nil _
    | snoc _ step ih => exact List.forall_mem_append.mpr ⟨ih, ne_dashes step⟩
  obtain ⟨r, read, settles⟩ := reads line
  refine ⟨r, settles, fun rest => ?_⟩
  rw [takeAll_append others, read]
  rfl

/-- With nothing after it, a command line is read up to what is missing. -/
theorem parse_reads (line : Reads Arguments.command words m) :
    parse words = finish ⟨m, .none⟩ := by
  obtain ⟨r, settles, read⟩ := takeAll_reads line
  have all := read []
  rw [List.append_nil] at all
  rw [parse, all, takeAll, settles]
  rfl

theorem missing_eq_nil_iff : r.missing = [] ↔ Arguments.command.next? r.found = none := by
  simp [missing, Command.next?, Arguments.command, positionalNames]

/-- Reading from left to right does what is relied on. -/
theorem documented : CommandReader.Documented (fun _ => parse) Arguments.command where
  complete line full := by
    have all : missing ⟨_, .none⟩ = [] := missing_eq_nil_iff.mpr full
    rw [parse_reads line, finish, all]
    rfl
  missing line next := by
    rw [parse_reads line, finish]
    split
    · next all => simp [missing_eq_nil_iff.mp all] at next
    · exact ⟨_, rfl⟩
  unexpected {before m text after} line full plain := by
    obtain ⟨r, settles, read⟩ := takeAll_reads line
    obtain ⟨next, awaited⟩ := settles.keeps
    refine ⟨.unknown text, ?_⟩
    rw [parse, read, takeAll_cons (ne_dashes_of_plain plain), take_text plain, takeValue,
      if_neg awaited, takePositional, next, full]
    rfl

end Reading
end SensorThresholds
