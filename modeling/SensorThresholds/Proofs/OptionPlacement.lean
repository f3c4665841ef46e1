import SensorThresholds.Proofs.ArgumentReading
import Mathlib.Algebra.Ring.Nat
import Mathlib.Data.List.Induction

/-!
Where options stand on a command line. It is written in parts, in any order: texts that do not begin
with a dash, flags for more detail in each of their spellings, and a format with its value next to
it. Whatever takes it apart as documented, what is asked for depends on the texts in their order, on
the number of the flags and on the format, and not on where the options stand among the texts.
-/

namespace SensorThresholds

theorem OutputFormat.head?_name (format : OutputFormat) :
    format.name.toList.head? ≠ some '-' := by
  cases format <;> decide

/-- What can be written on a command line without asking for help or the version. -/
inductive Part where
  | argument (text : String) (plain : text.toList.head? ≠ some '-')
  /-- As many letters as flags, after one dash. -/
  | letters (others : Nat)
  | verbose
  /-- With its value after an equals sign, or as an argument of its own. -/
  | format (value : OutputFormat) (joined : Bool)

namespace Part

def words : Part → List String
  | argument text _ => [text]
  | letters others => [.ofList ('-' :: List.replicate (others + 1) 'v')]
  | verbose => ["--verbose"]
  | format value true => ["--format=" ++ value.name]
  | format value false => ["--format", value.name]

def text? : Part → Option String
  | argument text _ => some text
  | _ => none

def format? : Part → Option OutputFormat
  | format value _ => some value
  | _ => none

def flags : Part → Nat
  | letters others => others + 1
  | verbose => 1
  | _ => 0

end Part

/-- The parts of a command line in the order in which they are written. -/
structure CommandLine where
  parts : List Part
  oneFormat : (parts.filterMap Part.format?).length ≤ 1

namespace CommandLine

def words (line : CommandLine) : List String := line.parts.flatMap Part.words

def texts (line : CommandLine) : List String := line.parts.filterMap Part.text?

def format? (line : CommandLine) : Option OutputFormat :=
  (line.parts.filterMap Part.format?).head?

def flags (line : CommandLine) : Nat := (line.parts.map Part.flags).sum

end CommandLine

namespace Matches

variable {texts : List String} {format : Option OutputFormat} {flags : Nat}

/-- What is found where texts, a format and so many flags are written. -/
def written (texts : List String) (format : Option OutputFormat) (flags : Nat) : Matches where
  value name :=
    if name = "format" then format.map OutputFormat.name
    else (Arguments.command.positionals.zip texts).lookup name
  count name := if name = "verbose" then min flags 255 else 0

theorem lookup_zip_snoc {names : List String} (distinct : names.Nodup)
    (room : texts.length < names.length) (text other : String) :
    (names.zip (texts ++ [text])).lookup other =
      if other = names[texts.length] then some text else (names.zip texts).lookup other := by
  induction texts generalizing names with
  | nil =>
      obtain ⟨name, names, rfl⟩ := List.exists_cons_of_length_pos room
      by_cases same : other = name
      · simp [same]
      · simp [List.lookup_cons, same, beq_false_of_ne same]
  | cons first texts ih =>
      obtain ⟨name, names, rfl⟩ := List.exists_cons_of_length_pos (Nat.zero_lt_of_lt room)
      obtain ⟨new, distinct⟩ := List.nodup_cons.mp distinct
      have fewer : texts.length < names.length := Nat.lt_of_succ_lt_succ room
      have last : name ≠ names[texts.length] :=
        (ne_of_mem_of_not_mem (List.getElem_mem fewer) new).symm
      by_cases same : other = name
      · simp [same, last]
      · simp [List.lookup_cons, ih distinct fewer, beq_false_of_ne same]

/-- The first name that has no text is the one after those of the texts. -/
theorem next?_written (room : texts.length < Arguments.command.positionals.length) :
    Arguments.command.next? (written texts format flags) =
      some Arguments.command.positionals[texts.length] := by
  match texts, room with
  | [], _ | [_], _ | [_, _], _ | [_, _, _], _ => rfl

theorem written_given (room : texts.length < Arguments.command.positionals.length)
    (text : String) :
    (written texts format flags).given Arguments.command.positionals[texts.length] text =
      written (texts ++ [text]) format flags := by
  have distinct : Arguments.command.positionals.Nodup := by decide
  have named : Arguments.command.positionals[texts.length] ≠ "format" :=
    ne_of_mem_of_not_mem (List.getElem_mem room) (by decide)
  ext other : 2
  · simp only [written, given, lookup_zip_snoc distinct room]
    split
    · next same => rw [if_neg (same ▸ named)]
    · rfl
  · rfl

theorem written_counted :
    (written texts format flags).counted "verbose" = written texts format (flags + 1) := by
  ext other : 2
  · rfl
  · simp only [written, counted]
    split <;> omega

theorem written_counted_all (more : Nat) :
    (List.replicate more (Flag.mk "verbose" 'v')).foldl (fun m flag => m.counted flag.long)
      (written texts format flags) = written texts format (flags + more) := by
  induction more generalizing flags with
  | zero => rfl
  | succ more ih =>
      rw [List.replicate_succ, List.foldl_cons, written_counted, ih, Nat.add_assoc,
        Nat.add_comm 1]

theorem written_format (value : OutputFormat) :
    (written texts none flags).given "format" value.name = written texts (some value) flags := by
  ext other : 2
  · simp only [written, given]
    split <;> rfl
  · rfl

/-- What is found on a command line of these parts. -/
def ofParts (parts : List Part) : Matches :=
  written (parts.filterMap Part.text?) (parts.filterMap Part.format?).head?
    (parts.map Part.flags).sum

theorem ofParts_nil : ofParts [] = .empty := by
  ext name : 2
  · exact ite_self none
  · exact ite_self 0

theorem ofParts_snoc (before : List Part) (part : Part) :
    ofParts (before ++ [part]) =
      written (before.filterMap Part.text? ++ part.text?.toList)
        ((before.filterMap Part.format?).head?.or part.format?)
        ((before.map Part.flags).sum + part.flags) := by
  have last {α : Type} (f : Part → Option α) : [part].filterMap f = (f part).toList := by
    rw [List.filterMap_cons]
    cases f part <;> rfl
  have head : part.format?.toList.head? = part.format? := by cases part.format? <;> rfl
  rw [ofParts, List.filterMap_append, List.filterMap_append, last, last, List.head?_append, head,
    List.map_append, List.sum_append, List.map_singleton, List.sum_singleton]

end Matches

section

variable {before parts : List Part} {part : Part}

/-- One more part is one more text or option, as long as there are at most four texts and one
format. -/
theorem takes_part (room : ((before ++ [part]).filterMap Part.text?).length ≤ 4)
    (once : ((before ++ [part]).filterMap Part.format?).length ≤ 1) :
    Takes Arguments.command (.ofParts before) part.words (.ofParts (before ++ [part])) := by
  have verbose : Flag.mk "verbose" 'v' ∈ Arguments.command.flags := List.mem_singleton_self _
  rw [Matches.ofParts_snoc]
  cases part with
  | argument text plain =>
      have few : (before.filterMap Part.text?).length < 4 := by
        simpa [Part.text?, Nat.lt_succ_iff] using room
      simp only [Part.text?, Part.format?, Part.flags, Option.toList_some, Option.or_none,
        Nat.add_zero]
      rw [← Matches.written_given few]
      exact .positional (Matches.next?_written few) plain
  | letters others =>
      have spelt : List.replicate (others + 1) 'v' =
          (List.replicate (others + 1) (Flag.mk "verbose" 'v')).map Flag.short := by
        rw [List.map_replicate]
      simp only [Part.text?, Part.format?, Part.flags, Option.toList_none, Option.or_none,
        List.append_nil]
      rw [← Matches.written_counted_all, Part.words, spelt]
      refine .letters (fun flag member => ?_) (by simp)
      rw [List.eq_of_mem_replicate member]
      exact verbose
  | verbose =>
      simp only [Part.text?, Part.format?, Part.flags, Option.toList_none, Option.or_none,
        List.append_nil]
      rw [← Matches.written_counted]
      exact .flag verbose
  | format value joined =>
      have absent : before.filterMap Part.format? = [] := by simpa [Part.format?] using once
      have possible : value.name ∈ [OutputFormat.text.name, OutputFormat.json.name] := by
        cases value <;> decide
      simp only [Part.text?, Part.format?, Part.flags, Option.toList_none, absent, List.append_nil,
        List.head?_nil, Option.none_or, Nat.add_zero]
      rw [← Matches.written_format, Matches.ofParts, absent]
      have known : Choice.mk "format" [OutputFormat.text.name, OutputFormat.json.name]
          OutputFormat.text.name ∈ Arguments.command.choices := List.mem_singleton_self _
      cases joined with
      | true => exact .joined known possible rfl
      | false => exact .apart known possible value.head?_name rfl

theorem reads_parts (parts : List Part) (room : (parts.filterMap Part.text?).length ≤ 4)
    (once : (parts.filterMap Part.format?).length ≤ 1) :
    Reads Arguments.command (parts.flatMap Part.words) (.ofParts parts) := by
  induction parts using List.reverseRecOn with
  | nil =>
      rw [Matches.ofParts_nil]
      exact .nil
  | append_singleton before part ih =>
      have shorter {α : Type} (f : Part → Option α) :
          (before.filterMap f).length ≤ ((before ++ [part]).filterMap f).length := by
        rw [List.filterMap_append, List.length_append]
        exact Nat.le_add_right ..
      have earlier := ih (Nat.le_trans (shorter _) room) (Nat.le_trans (shorter _) once)
      rw [List.flatMap_append, List.flatMap_singleton]
      exact .snoc earlier (takes_part room once)

/-- The part that is the text after so many others. -/
theorem exists_part {texts : List String} {text : String} {others : List String}
    (more : parts.filterMap Part.text? = texts ++ text :: others) :
    ∃ before plain after, parts = before ++ .argument text plain :: after ∧
      before.filterMap Part.text? = texts := by
  obtain ⟨first, last, rfl, rfl, rest⟩ := List.filterMap_eq_append_iff.mp more
  obtain ⟨options, part, after, rfl, none, found, -⟩ := List.filterMap_eq_cons_iff.mp rest
  cases part with
  | argument text plain =>
      obtain rfl := Option.some.inj found
      refine ⟨first ++ options, plain, after, (List.append_assoc ..).symm, ?_⟩
      rw [List.filterMap_append, List.filterMap_eq_nil_iff.mpr none, List.append_nil]
  | _ => cases found

end

namespace CommandLine

section

variable {parse : CommandReader} (documented : parse.Documented Arguments.command)
  (line : CommandLine)
include documented

theorem read_four {host user password property : String}
    (four : line.texts = [host, user, password, property]) :
    Arguments.read parse line.words = .ok
      { host, user, password, property
        format := line.format?.getD .text
        verbosity := min line.flags 255 } := by
  have found : Matches.ofParts line.parts =
      .written [host, user, password, property] line.format? line.flags := by
    rw [← four]
    rfl
  have reads := reads_parts line.parts (Nat.le_of_eq (congrArg List.length four)) line.oneFormat
  rw [found] at reads
  rw [Arguments.read, words, documented.complete reads rfl]
  rcases line.format? with _ | value
  · rfl
  · cases value <;> rfl

theorem read_few (few : line.texts.length < 4) :
    ∃ fault, Arguments.read parse line.words = .error (.refused fault) := by
  have reads := reads_parts line.parts (Nat.le_of_lt few) line.oneFormat
  obtain ⟨fault, refused⟩ := documented.missing reads (Matches.next?_written few)
  exact ⟨fault, by rw [Arguments.read, words, refused]; rfl⟩

theorem read_many {a b c d fifth : String} {others : List String}
    (many : line.texts = [a, b, c, d] ++ fifth :: others) :
    ∃ fault, Arguments.read parse line.words = .error (.refused fault) := by
  obtain ⟨parts, once⟩ := line
  obtain ⟨before, plain, after, rfl, four⟩ := exists_part many
  have fewer : (before.filterMap Part.format?).length ≤ 1 := by
    rw [List.filterMap_append, List.length_append] at once
    omega
  have reads := reads_parts before (Nat.le_of_eq (congrArg List.length four)) fewer
  have full : Arguments.command.next? (.ofParts before) = none := by
    rw [Matches.ofParts, four]
    rfl
  have written : (before ++ .argument fifth plain :: after).flatMap Part.words =
      before.flatMap Part.words ++ fifth :: after.flatMap Part.words := by
    rw [List.flatMap_append, List.flatMap_cons, Part.words, List.singleton_append]
  obtain ⟨fault, refused⟩ := documented.unexpected reads full plain
  exact ⟨fault, by rw [Arguments.read, words, written, refused]; rfl⟩

/-- The order of the texts matters, and that of the options among them does not. Four texts are what
is looked up, with the number of the flags and the format, and any other number of them is
refused. -/
theorem options_placed_anywhere :
    match line.texts with
    | [host, user, password, property] =>
      Arguments.read parse line.words = .ok
        { host, user, password, property
          format := line.format?.getD .text
          verbosity := min line.flags 255 }
    | _ => ∃ fault, Arguments.read parse line.words = .error (.refused fault) := by
  split
  · next four => exact line.read_four documented four
  · next notFour =>
      match held : line.texts with
      | [] | [_] | [_, _] | [_, _, _] => exact line.read_few documented (by simp [held])
      | [_, _, _, _] => exact absurd held (notFour _ _ _ _)
      | _ :: _ :: _ :: _ :: _ :: _ => exact line.read_many documented held

end

/-- Options before, between and next to four texts, one of which is empty. -/
def amongFour : CommandLine where
  parts := [.letters 1, .argument "10.1.10.10" (by decide), .argument "root" (by decide),
    .format .json false, .argument "" (by decide), .verbose, .argument "Sensor" (by decide)]
  oneFormat := by decide

/-- The same options with one text less. -/
def amongThree : CommandLine where
  parts := [.letters 1, .argument "10.1.10.10" (by decide), .format .json true, .verbose,
    .argument "root" (by decide), .argument "" (by decide)]
  oneFormat := by decide

/-- Reading from left to right gives the one and refuses the other. -/
theorem options_placed_anywhere_from_left :
    CommandReader.Documented (fun _ => Reading.parse) Arguments.command ∧
    Arguments.read (fun _ => Reading.parse)
      ["-vv", "10.1.10.10", "root", "--format", "json", "", "--verbose", "Sensor"] =
        .ok ⟨"10.1.10.10", "root", "", "Sensor", .json, 3⟩ ∧
    ∃ fault, Arguments.read (fun _ => Reading.parse)
      ["-vv", "10.1.10.10", "--format=json", "--verbose", "root", ""] = .error (.refused fault) :=
  ⟨Reading.documented, options_placed_anywhere Reading.documented amongFour,
    options_placed_anywhere Reading.documented amongThree⟩

end CommandLine
end SensorThresholds
