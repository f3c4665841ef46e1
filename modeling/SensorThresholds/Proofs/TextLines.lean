import SensorThresholds.Proofs.EntryOrder
import SensorThresholds.Proofs.Flushing
import SensorThresholds.Proofs.JsonReading

/-!
The text of a run, split at its line breaks. The four lines of a report are never broken, whatever
its document says, and so are the first and the last line unless the argument breaks them. But the
line that announces a target has the path of the target in it as it stands, with all line breaks.
-/

namespace SensorThresholds
open Trace

variable {σ : Type}

/-- The pieces of a text between its line breaks. -/
def pieces (text : String) : List String := (text.toList.splitOn '\n').map String.ofList

/-- The text of some lines, with a line break behind each. -/
def unlines (lines : List String) : String :=
  .ofList (lines.flatMap fun line => line.toList ++ ['\n'])

theorem toList_unlines_cons (line : String) (rest : List String) :
    (unlines (line :: rest)).toList = line.toList ++ '\n' :: (unlines rest).toList := by
  simp [unlines]

theorem lineBytes_eq (lines : List String) : lineBytes lines = Utf8.encode (unlines lines) := by
  induction lines with
  | nil =>
      rw [Utf8.encode_eq]
      rfl
  | cons line rest ih =>
      have parts : unlines (line :: rest) = (line ++ "\n") ++ unlines rest := by
        apply String.toList_inj.mp
        rw [toList_unlines_cons]
        simp
      rw [parts, Utf8.encode_append, ← ih]
      rfl

theorem pieces_of_unbroken {line : String} (unbroken : '\n' ∉ line.toList) :
    pieces line = [line] := by
  rw [pieces, List.splitOn_eq_singleton unbroken, List.map_singleton, String.ofList_toList]

/-- Each line falls into its own pieces, and nothing follows the last one. -/
theorem pieces_unlines (lines : List String) :
    pieces (unlines lines) = lines.flatMap pieces ++ [""] := by
  induction lines with
  | nil => rfl
  | cons line rest ih =>
      have apart : (line.toList ++ '\n' :: (unlines rest).toList).splitOn '\n' =
          line.toList.splitOn '\n' ++ (unlines rest).toList.splitOn '\n' :=
        List.splitOnP_append_cons _ _ (by simp)
      rw [List.flatMap_cons, List.append_assoc, ← ih, pieces, toList_unlines_cons, apart,
        List.map_append]
      rfl

theorem length_pieces (text : String) :
    (pieces text).length = text.toList.count '\n' + 1 := by
  have split (cs : List Char) : (cs.splitOn '\n').length = cs.count '\n' + 1 := by
    induction cs with
    | nil => rfl
    | cons c rest ih =>
        rw [List.splitOn] at ih ⊢
        rw [List.splitOnP_cons_eq_if_modifyHead, List.count_cons]
        split <;> simp [ih]
  rw [pieces, List.length_map, split]

theorem flatMap_pieces_of_unbroken {lines : List String}
    (unbroken : ∀ line ∈ lines, '\n' ∉ line.toList) : lines.flatMap pieces = lines := by
  have each : lines.flatMap pieces = lines.flatMap fun line => [line] :=
    List.flatMap_congr fun line member => pieces_of_unbroken (unbroken line member)
  rw [each, List.flatMap_singleton']

theorem newline_not_mem_of_plain {cs : List Char} (plain : Plain cs) : '\n' ∉ cs :=
  fun member => absurd (plain _ member) (by decide)

theorem plain_zeros (n : ℕ) : Plain (zeros n) := by
  intro c member
  rw [List.eq_of_mem_replicate member]
  decide

theorem Decimal.plain_positional (d : Decimal) : Plain d.positional := by
  have digits := plain_decimalDigits d.digits
  unfold positional
  dsimp only
  split
  · exact plain_append.mpr ⟨digits, plain_zeros _⟩
  · split
    · refine plain_append.mpr ⟨fun c member => digits c (List.mem_of_mem_take member), ?_⟩
      exact plain_cons.mpr ⟨by decide, fun c member => digits c (List.mem_of_mem_drop member)⟩
    · refine plain_append.mpr ⟨?_, digits⟩
      exact plain_cons.mpr ⟨by decide, plain_cons.mpr ⟨by decide, plain_zeros _⟩⟩

namespace Double

theorem plain_plain (d : Double) : Plain d.plain.toList := by
  cases d with
  | nan => simp [plain, Plain]
  | infinite s =>
      rw [plain, String.toList_ofList]
      exact plain_signed s (by simp [Plain])
  | finite s m =>
      rw [plain, String.toList_ofList]
      exact plain_signed s (Decimal.plain_positional _)

/-- No double is shown with a line break. -/
theorem plain_measured (d : Double) : Plain d.measured.toList := by
  cases d with
  | finite s m =>
      rw [measured]
      split
      · rw [String.toList_ofList]
        exact plain_signed s (plain_append.mpr ⟨plain_decimalDigits _, by simp [Plain]⟩)
      · exact plain_plain _
  | _ => exact plain_plain _

end Double

namespace Report

theorem plain_line (decimal : Bool) (threshold : Threshold) (value : Option Double) :
    Plain (line decimal threshold value).toList := by
  have label : Plain threshold.label.toList := by
    cases threshold <;> simp [Plain, Threshold.label]
  cases value with
  | none =>
      have text : line decimal threshold none = threshold.label ++ " property is null" := rfl
      rw [text, String.toList_append, plain_append]
      exact ⟨label, by simp [Plain]⟩
  | some v =>
      cases decimal with
      | true =>
          have text : line true threshold (some v) = threshold.label ++ " :" ++ v.measured := rfl
          rw [text, String.toList_append, String.toList_append, plain_append, plain_append]
          exact ⟨⟨label, by simp [Plain]⟩, v.plain_measured⟩
      | false =>
          have text : line false threshold (some v) =
            threshold.label ++ ":" ++ .ofList (integerText v.wholeNumber) := rfl
          have digits : Plain (String.ofList (integerText v.wholeNumber)).toList := by
            rw [String.toList_ofList]
            exact plain_signed _ (plain_decimalDigits _)
          rw [text, String.toList_append, String.toList_append, plain_append, plain_append]
          exact ⟨⟨label, by simp [Plain]⟩, digits⟩

/-- The lines of a report are not broken. -/
theorem pieces_lines (r : Report) : r.lines.flatMap pieces = r.lines := by
  apply flatMap_pieces_of_unbroken
  intro line member
  obtain ⟨⟨threshold, value⟩, -, rfl⟩ := List.mem_map.mp member
  exact newline_not_mem_of_plain (plain_line r.decimal threshold value)

end Report
namespace Lookup

/-- The line that comes before all others where the argument names a report. -/
def opening (input : String) : List String :=
  if hasFragment input then [] else [s!"For metric report: {input}"]

/-- What a run that succeeds has to say: of its report, of each target, and that it is done. -/
def textLines (input : String) (rs : List Report) : List String :=
  opening input ++ rs.flatMap (fun r => targetNote r.property :: r.lines) ++ [successNote input]

/-- How many line breaks there are in the paths of some reports. -/
def breaks (rs : List Report) : Nat :=
  (rs.map fun r => r.property.toList.count '\n').sum

theorem count_targetNote (path : String) :
    (targetNote path).toList.count '\n' = path.toList.count '\n' := by
  have text : targetNote path = "Thresholds for mp:'" ++ path ++ "' are below:" := rfl
  rw [text, String.toList_append, String.toList_append, List.count_append, List.count_append]
  simp

theorem pieces_targetNote {path : String} (unbroken : '\n' ∉ path.toList) :
    pieces (targetNote path) = [targetNote path] := by
  apply pieces_of_unbroken
  rw [← List.count_eq_zero, count_targetNote, List.count_eq_zero]
  exact unbroken

theorem pieces_opening {input : String} (unbroken : '\n' ∉ input.toList) :
    (opening input).flatMap pieces = opening input := by
  apply flatMap_pieces_of_unbroken
  intro line member
  unfold opening at member
  split at member
  · cases member
  · have text : line = "For metric report: " ++ input := List.mem_singleton.mp member
    rw [text, String.toList_append, List.mem_append, not_or]
    exact ⟨by decide, unbroken⟩

theorem pieces_successNote {input : String} (unbroken : '\n' ∉ input.toList) :
    pieces (successNote input) = [successNote input] := by
  apply pieces_of_unbroken
  have text : successNote input =
    "Successfully found the thresholds for '" ++ input ++ "'." := rfl
  rw [text, String.toList_append, String.toList_append, List.mem_append, List.mem_append]
  simp [unbroken]

/-- Only the announcements of targets can be broken. -/
theorem pieces_textLines {input : String} (unbroken : '\n' ∉ input.toList) (rs : List Report) :
    (textLines input rs).flatMap pieces = opening input ++
      rs.flatMap (fun r => pieces (targetNote r.property) ++ r.lines) ++ [successNote input] := by
  rw [textLines, List.flatMap_append, List.flatMap_append, pieces_opening unbroken,
    List.flatMap_assoc, List.flatMap_singleton, pieces_successNote unbroken]
  simp only [List.flatMap_cons, Report.pieces_lines]

theorem pieces_textLines_of_unbroken {input : String} (unbroken : '\n' ∉ input.toList)
    {rs : List Report} (whole : breaks rs = 0) :
    (textLines input rs).flatMap pieces = textLines input rs := by
  have paths : ∀ r ∈ rs, pieces (targetNote r.property) = [targetNote r.property] := by
    intro r member
    apply pieces_targetNote
    rw [← List.count_eq_zero]
    exact List.sum_eq_zero_iff.mp whole _ (List.mem_map_of_mem member)
  rw [pieces_textLines unbroken, textLines]
  congr 2
  exact List.flatMap_congr fun r member => by rw [paths r member, List.singleton_append]

theorem length_opening (input : String) :
    (opening input).length = if hasFragment input then 0 else 1 := by
  unfold opening
  split <;> rfl

theorem length_textLines (input : String) {rs : List Report}
    (four : ∀ r ∈ rs, r.lines.length = 4) :
    (textLines input rs).length = (opening input).length + 5 * rs.length + 1 := by
  have each : (rs.flatMap fun r => targetNote r.property :: r.lines).length = 5 * rs.length := by
    induction rs with
    | nil => rfl
    | cons r rest ih =>
        obtain ⟨first, later⟩ := List.forall_mem_cons.mp four
        rw [List.flatMap_cons, List.length_append, ih later, List.length_cons, first,
          List.length_cons]
        omega
  rw [textLines, List.length_append, List.length_append, each]
  rfl

/-- Each line break in a path makes one more line. -/
theorem length_pieces_textLines {input : String} (unbroken : '\n' ∉ input.toList)
    {rs : List Report} (four : ∀ r ∈ rs, r.lines.length = 4) :
    ((textLines input rs).flatMap pieces).length =
      (opening input).length + (5 * rs.length + breaks rs) + 1 := by
  have each : (rs.flatMap fun r => pieces (targetNote r.property) ++ r.lines).length =
      5 * rs.length + breaks rs := by
    induction rs with
    | nil => rfl
    | cons r rest ih =>
        obtain ⟨first, later⟩ := List.forall_mem_cons.mp four
        rw [List.flatMap_cons, List.length_append, ih later, List.length_append, first,
          length_pieces, count_targetNote, List.length_cons, breaks, breaks, List.map_cons,
          List.sum_cons]
        omega
  rw [pieces_textLines unbroken, List.length_append, List.length_append, each]
  rfl

/-- A run that succeeds has gone through all its targets, each with a report. -/
theorem completes_of_run_ok (l : Lookup σ) {input : String} {s : σ}
    (ended : (l.run input s).result = .ok ()) :
    ∃ paths, l.Names input (.ok paths) ∧ l.Completes input paths (l.run input s) ∧
      steps (l.run input s).trace = l.runScript input paths [successNote input] := by
  obtain ⟨result, names⟩ := l.exists_names input
  cases result with
  -- Whether the sink fails is left open, but a run that it fails does not end well.
  | error failure =>
      rcases l.run_follows_unresolved l.sink.keeps_trivial names s trivial with
        ⟨-, failed, -⟩ | ⟨-, fault, -, failed⟩
      · cases ended.symm.trans failed
      · cases ended.symm.trans failed
  | ok paths =>
      rcases l.run_follows l.sink.keeps_trivial names s trivial with
        ⟨played, returned, -⟩ | ⟨-, fault, -, failed⟩
      · rcases l.answered_or_first_failure paths with
          answered | ⟨before, target, after, failure, rfl, answered, unanswered⟩
        · rw [(reached_of_answered answered).1, (reached_of_answered answered).2] at played
          exact ⟨paths, names, completes_of_played l answered played ended, played⟩
        · rw [(reached_of_failure answered unanswered).2] at returned
          cases ended.symm.trans returned
      · cases ended.symm.trans failed

theorem flatMap_reports (l : Lookup σ) {paths : List String}
    (answered : ∀ path ∈ paths, ∃ r, l.answer path = .ok r) :
    (paths.filterMap fun path => (l.answer path).toOption).flatMap
        (fun r => targetNote r.property :: r.lines) =
      paths.flatMap fun path =>
        targetNote path :: (l.answer path).toOption.elim [] Report.lines := by
  induction paths with
  | nil => rfl
  | cons path rest ih =>
      obtain ⟨⟨r, first⟩, later⟩ := List.forall_mem_cons.mp answered
      rw [List.filterMap_cons, first, List.flatMap_cons, ← ih later]
      simp only [Except.toOption, List.flatMap_cons, (l.shape_of_answer first).1, first,
        Option.elim_some]

theorem nodup_of_names (l : Lookup σ) {input : String} {paths : List String}
    (names : l.Names input (.ok paths)) : paths.Nodup := by
  obtain ⟨ended, -, same⟩ := l.resolve_follows l.sink.keeps_trivial names
  cases ended with
  | error failure => cases same
  | ok targets =>
      obtain rfl : targets.toList = paths := Except.ok.inj same
      exact targets.nodup_toList

/-- What a run that succeeds has written as text. -/
theorem written_textLines (source : Source) (reportBase : String) {input : String} {w : Writer}
    (ended : (run ⟨source, reportBase, .text⟩ input w).result = .ok ()) :
    written (run ⟨source, reportBase, .text⟩ input w).trace = Utf8.encode
      (unlines (textLines input (reports (run ⟨source, reportBase, .text⟩ input w).trace))) := by
  obtain ⟨paths, -, completes, played⟩ := completes_of_run_ok _ ended
  have fine : ∀ fault, (run ⟨source, reportBase, .text⟩ input w).result ≠
      .error (.output fault) := by
    intro fault failed
    cases ended.symm.trans failed
  have shown : written (run ⟨source, reportBase, .text⟩ input w).trace =
      lineBytes ((run ⟨source, reportBase, .text⟩ input w).trace.flatMap
        OutputFormat.text.shown) := ((run_prompt source reportBase input .text w).2 fine).shown
  rw [← OutputFormat.flatMap_shown_steps] at shown
  rw [← lineBytes_eq, textLines, reports_of_completes completes,
    flatMap_reports _ completes.answered]
  refine shown.trans (congrArg lineBytes ?_)
  rw [played, lines_text, notes_resolveScript, opening]

/-- A run that succeeds as text, split at its line breaks. The lines of reports stay whole, and so
do the first line and the last one; what adds lines is line breaks in the paths of targets, one for
each. Without them there are five lines for each target, one for the end, and one for the report if
the argument names one; an argument that is itself a reference has one target and six lines. -/
theorem text_split_at_line_breaks (source : Source) (reportBase input : String) (w : Writer)
    (unbroken : '\n' ∉ input.toList)
    (ended : (run ⟨source, reportBase, .text⟩ input w).result = .ok ()) :
    let trace := (run ⟨source, reportBase, .text⟩ input w).trace
    let rs := reports trace
    attributePaths trace = rs.map Report.property ∧ (attributePaths trace).Nodup ∧
      (∀ r ∈ rs, r.lines.length = 4) ∧
      ∃ text, written trace = Utf8.encode text ∧
        pieces text = opening input ++ rs.flatMap (fun r => pieces (targetNote r.property) ++
          r.lines) ++ [successNote input] ++ [""] ∧
        (pieces text).length =
          (if hasFragment input then 1 else 2) + 5 * rs.length + breaks rs + 1 ∧
        (hasFragment input = true → rs.length = 1 ∧ breaks rs = 0) ∧
        (breaks rs = 0 ↔ pieces text = textLines input rs ++ [""]) := by
  intro trace rs
  obtain ⟨paths, names, completes, -⟩ := completes_of_run_ok _ ended
  have properties : rs.map Report.property = paths := properties_of_answers _ completes.reported
  have four : ∀ r ∈ rs, r.lines.length = 4 := by
    intro r member
    obtain ⟨path, -, answered⟩ :
        ∃ path ∈ paths, answer ⟨source, reportBase, .text⟩ path = .ok r := by
      have found : .ok r ∈ paths.map (answer ⟨source, reportBase, .text⟩) :=
        completes.reported ▸ List.mem_map_of_mem member
      exact List.mem_map.mp found
    exact (shape_of_answer _ answered).2
  refine ⟨completes.asked.trans properties.symm, ?_, four, unlines (textLines input rs),
    written_textLines source reportBase ended, ?_, ?_, ?_, ?_⟩
  · rw [completes.asked]
    exact nodup_of_names _ names
  · rw [pieces_unlines, pieces_textLines unbroken]
  · rw [pieces_unlines, List.length_append, length_pieces_textLines unbroken four,
      length_opening]
    split <;> simp <;> omega
  · intro single
    rw [Names, if_pos single] at names
    obtain ⟨r, only, property⟩ : ∃ r, rs = [r] ∧ r.property = stripFragment input := by
      rw [Except.ok.inj names] at properties
      exact List.map_eq_singleton_iff.mp properties
    have none : '\n' ∉ r.property.toList := by
      rw [property, toList_stripFragment]
      exact fun member => unbroken ((List.takeWhile_prefix _).mem member)
    rw [only]
    exact ⟨rfl, by simpa [breaks] using List.count_eq_zero.mpr none⟩
  · constructor
    · intro whole
      rw [pieces_unlines, pieces_textLines_of_unbroken unbroken whole]
    -- A line break in a path would make the two lists differ in length.
    · intro same
      have length := congrArg List.length same
      rw [pieces_unlines, List.length_append, List.length_append,
        length_pieces_textLines unbroken four, length_textLines input four] at length
      omega

/-- A report of some references leads to all their paths, none of which has thresholds. -/
theorem run_listing (references : List String) :
    let outcome := run ⟨listing references, "/reports/", .text⟩ "Power" .unlimited
    let paths := (references.map stripFragment).eraseDups
    outcome.result = .ok () ∧ attributePaths outcome.trace = paths ∧
      reports outcome.trace =
        paths.map fun path => ⟨path, none, 0, false, Threshold.all.map (·, none)⟩ := by
  intro outcome paths
  let l : Lookup Writer := ⟨listing references, "/reports/", .text⟩
  have plain : '#' ∉ "Power".toList := by decide
  have names := l.names_of_lists plain (lists_listing references (l.reportPath "Power"))
  have completes : l.Completes "Power" paths outcome :=
    run_completes l (OutputFormat.sink_reliable .text) names rfl fun path _ => ⟨_, rfl⟩
  refine ⟨completes.returned, completes.asked, ?_⟩
  rw [reports_of_completes completes, ← List.filterMap_eq_map]
  rfl

theorem text_split_at_line_breaks_pair :
    let outcome := run ⟨listing ["/a#x", "/b\n"], "/reports/", .text⟩ "Power" .unlimited
    '\n' ∉ "Power".toList ∧ outcome.result = .ok () ∧
      ∃ text, written outcome.trace = Utf8.encode text ∧ (pieces text).length = 14 := by
  intro outcome
  have unbroken : '\n' ∉ "Power".toList := by decide
  obtain ⟨ended, -, made⟩ := run_listing ["/a#x", "/b\n"]
  obtain ⟨-, -, -, text, shown, -, length, -⟩ := text_split_at_line_breaks
    (listing ["/a#x", "/b\n"]) "/reports/" "Power" .unlimited unbroken ended
  refine ⟨unbroken, ended, text, shown, length.trans ?_⟩
  rw [made]
  decide +kernel

/-- A path with line breaks can end its announcement early, go on with the line of a threshold that
the sensor does not have, and announce another path. -/
theorem forged_threshold_line :
    let forged := "/a' are below:\nUpper Threshold Critical:5\nThresholds for mp:'/b"
    let shown :=
      ["For metric report: Power",
       "Thresholds for mp:'/a' are below:",
       "Upper Threshold Critical:5",
       "Thresholds for mp:'/b' are below:",
       "Lower Threshold Critical property is null",
       "Lower Threshold Warning property is null",
       "Upper Threshold Critical property is null",
       "Upper Threshold Warning property is null",
       "Successfully found the thresholds for 'Power'."]
    let outcome := run ⟨listing [forged], "/reports/", .text⟩ "Power" .unlimited
    '\n' ∉ "Power".toList ∧ hasFragment "Power" = false ∧ outcome.result = .ok () ∧
      attributePaths outcome.trace = [forged] ∧
      shown.length ≠ 5 * (attributePaths outcome.trace).length + 2 ∧
      ∃ text, written outcome.trace = Utf8.encode text ∧ pieces text = shown ++ [""] := by
  intro forged shown outcome
  obtain ⟨ended, asked, made⟩ := run_listing [forged]
  have one : ([forged].map stripFragment).eraseDups = [forged] := by decide +kernel
  rw [one] at asked made
  refine ⟨by decide, by decide, ended, asked, by rw [asked]; decide, _,
    written_textLines _ "/reports/" ended, ?_⟩
  rw [made, pieces_unlines, pieces_textLines (by decide)]
  decide +kernel

end Lookup
end SensorThresholds
