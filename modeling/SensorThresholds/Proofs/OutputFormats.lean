import SensorThresholds.Program
import SensorThresholds.Proofs.AttributesDocument
import SensorThresholds.Proofs.LimitedOutput
import SensorThresholds.Proofs.Related

/-!
The two output formats side by side. A run on an output that takes everything does what it does with
no output at all, and writes the lines that the format makes of each note and each report.
-/

namespace SensorThresholds
open Trace

/-- What a sink does of its own: it writes, flushes, and logs details. -/
def Event.isOfSink : Event → Bool
  | .write _ | .flush => true
  | .log entry => entry.origin == .sink && entry.level == .debug
  | _ => false

def Event.warning? : Event → Option LogEntry
  | .log entry => if entry.level = .warn then some entry else none
  | _ => none

theorem Event.isOfSink_within (target : String) (event : Event) :
    (event.within target).isOfSink = event.isOfSink := by
  cases event <;> rfl

namespace Event

theorem note?_of_sink (event : Event) (own : event.isOfSink = true) : event.note? = none := by
  cases event with
  | note line => cases own
  | _ => rfl

theorem report?_of_sink (event : Event) (own : event.isOfSink = true) :
    event.report? = none := by
  cases event with
  | report r => cases own
  | _ => rfl

theorem fetch?_of_sink (event : Event) (own : event.isOfSink = true) : event.fetch? = none := by
  cases event with
  | fetch path resource => cases own
  | _ => rfl

theorem request?_of_sink (event : Event) (own : event.isOfSink = true) :
    event.request? = none := by
  cases event with
  | request r => cases own
  | _ => rfl

theorem warning?_of_sink (event : Event) (own : event.isOfSink = true) :
    event.warning? = none := by
  cases event with
  | log entry =>
      have detail : entry.level = .debug := by simpa using (Bool.and_eq_true_iff.mp own).2
      rw [warning?, detail]
      rfl
  | _ => rfl

end Event

namespace Trace

def warnings (trace : List Event) : List LogEntry := trace.filterMap Event.warning?

/-- What is seen of a trace but for the sink. -/
def withoutSink (trace : List Event) : List Event := trace.filter (!·.isOfSink)

/-- The bytes of some lines. -/
def lineBytes (lines : List String) : List UInt8 :=
  lines.flatMap fun line => Utf8.encode (line ++ "\n")

theorem withoutSink_append (first second : List Event) :
    withoutSink (first ++ second) = withoutSink first ++ withoutSink second :=
  List.filter_append ..

theorem lineBytes_append (first second : List String) :
    lineBytes (first ++ second) = lineBytes first ++ lineBytes second := List.flatMap_append ..

theorem withoutSink_within (target : String) (trace : List Event) :
    withoutSink (trace.map (Event.within target)) =
      (withoutSink trace).map (Event.within target) := by
  rw [withoutSink, withoutSink, List.filter_map]
  congr 2
  funext event
  exact congrArg (!·) (event.isOfSink_within target)

theorem written_within (target : String) (trace : List Event) :
    written (trace.map (Event.within target)) = written trace := by
  rw [written, written, List.flatMap_map]
  congr 1
  funext event
  cases event <;> rfl

theorem withoutSink_sink (trace : List SinkEvent) :
    withoutSink (trace.map SinkEvent.toEvent) = [] := by
  rw [withoutSink, List.filter_eq_nil_iff]
  intro event member
  obtain ⟨original, -, rfl⟩ := List.mem_map.mp member
  cases original <;> simp [SinkEvent.toEvent, Event.isOfSink, LogEntry.plain]

theorem withoutSink_source (trace : List SourceEvent) :
    withoutSink (trace.map SourceEvent.toEvent) = trace.map SourceEvent.toEvent := by
  rw [withoutSink, List.filter_eq_self]
  intro event member
  obtain ⟨original, -, rfl⟩ := List.mem_map.mp member
  cases original <;> rfl

theorem written_source (trace : List SourceEvent) :
    written (trace.map SourceEvent.toEvent) = [] := by
  rw [written, List.flatMap_eq_nil_iff]
  intro event member
  obtain ⟨original, -, rfl⟩ := List.mem_map.mp member
  cases original <;> rfl

/-- What no sink does of its own can be read off the rest. -/
theorem filterMap_withoutSink {β : Type} {f : Event → Option β}
    (silent : ∀ event, event.isOfSink = true → f event = none) (trace : List Event) :
    (withoutSink trace).filterMap f = trace.filterMap f := by
  apply filterMap_filter_eq
  intro event dropped
  exact silent event (by simpa using dropped)

end Trace

namespace OutputFormat

/-- The lines that a format makes of an event. -/
def shown : OutputFormat → Event → List String
  | .text, .note line => [line]
  | .text, .report r => r.lines
  | .json, .report r => [r.json]
  | _, _ => []

theorem shown_within (format : OutputFormat) (target : String) (event : Event) :
    format.shown (event.within target) = format.shown event := by
  cases format <;> cases event <;> rfl

theorem shown_of_not_isStep (format : OutputFormat) {event : Event}
    (silent : event.isStep = false) : format.shown event = [] := by
  cases format <;> cases event <;> first | rfl | cases silent

theorem flatMap_shown_source (format : OutputFormat) (trace : List SourceEvent) :
    (trace.map SourceEvent.toEvent).flatMap format.shown = [] := by
  rw [List.flatMap_eq_nil_iff]
  intro event member
  obtain ⟨original, -, rfl⟩ := List.mem_map.mp member
  cases format <;> cases original <;> rfl

end OutputFormat

theorem OutputFormat.flatMap_shown_steps (format : OutputFormat) (trace : List Event) :
    (steps trace).flatMap format.shown = trace.flatMap format.shown := by
  induction trace with
  | nil => rfl
  | cons event rest ih =>
      rw [steps, List.filter_cons, List.flatMap_cons, ← ih]
      cases step : event.isStep with
      | true => rfl
      | false => exact (congrArg (· ++ _) (format.shown_of_not_isStep step)).symm

/-- The call takes place on an output without limits and writes the lines. -/
def Traced.Prints (call : SinkAction Writer Unit) (lines : List String) : Prop :=
  Steady call ∧ written ((call .unlimited).trace.map SinkEvent.toEvent) = lineBytes lines

namespace Traced.Prints

theorem bind {first second : SinkAction Writer Unit} {lines rest : List String}
    (prints : Prints first lines) (next : Prints second rest) :
    Prints (first >>= fun _ => second) (lines ++ rest) := by
  refine ⟨prints.1.bind next.1, ?_⟩
  obtain ⟨⟨ended, kept⟩, shown⟩ := prints
  rw [trace_bind_of_ok ended, kept, List.map_append, written_append, shown, next.2,
    lineBytes_append]

theorem putLine (line : String) : Prints (Writer.putLine line) [line] := by
  refine ⟨.putLine line, ?_⟩
  rw [Writer.putLine, Writer.put_apply, lineBytes, List.flatMap_singleton]
  show written (List.map _ (if (Utf8.encode (line ++ "\n")).isEmpty then [] else _)) = _
  cases Utf8.encode (line ++ "\n") with
  | nil => rfl
  | cons byte rest => exact Writer.written_write _

theorem putLines (lines : List String) : Prints (putLines lines) lines := by
  induction lines with
  | nil => exact ⟨⟨rfl, rfl⟩, rfl⟩
  | cons line rest ih => exact (putLine line).bind ih

theorem flush : Prints Writer.flush [] := ⟨⟨rfl, rfl⟩, rfl⟩

end Traced.Prints

theorem OutputFormat.note_prints (format : OutputFormat) (line : String) :
    Traced.Prints (format.sink.note line) (format.shown (.note line)) := by
  cases format with
  | text => exact (Traced.Prints.putLine line).bind .flush
  | json => exact ⟨⟨rfl, rfl⟩, rfl⟩

theorem OutputFormat.report_prints (format : OutputFormat) (r : Report) :
    Traced.Prints (format.sink.report r) (format.shown (.report r)) := by
  cases format with
  | text =>
      rw [← List.append_nil (shown .text (.report r))]
      exact (Traced.Prints.putLines r.lines).bind .flush
  | json => exact (Traced.Prints.putLine r.json).bind .flush

/-- On an output without limits the first computation does what the second one does without an
output, and writes the lines that the format makes of it. -/
def Traced.Renders {α : Type} (format : OutputFormat) (x : Action Writer α)
    (y : Action Unit α) : Prop :=
  (x .unlimited).result = (y ()).result ∧ (x .unlimited).state = .unlimited ∧
    withoutSink (x .unlimited).trace = (y ()).trace ∧
    written (x .unlimited).trace = lineBytes ((y ()).trace.flatMap format.shown)

namespace Traced.Renders

variable {format : OutputFormat} {α β : Type} {x : Action Writer α} {y : Action Unit α}
  {f : α → Action Writer β} {g : α → Action Unit β}

theorem bind (first : Renders format x y) (second : ∀ a, Renders format (f a) (g a)) :
    Renders format (x >>= f) (y >>= g) := by
  obtain ⟨ended, kept, seen, shown⟩ := first
  cases result : (y ()).result with
  | error failure =>
      have broken := ended.trans result
      rw [Renders, bind_of_error (s := ()) (by rw [← result]), bind_of_error (by rw [← broken])]
      exact ⟨rfl, kept, seen, shown⟩
  | ok a =>
      obtain ⟨ended', kept', seen', shown'⟩ := second a
      rw [Renders, bind_of_ok (s := ()) (by rw [← result]),
        bind_of_ok (by rw [← ended.trans result]), kept]
      refine ⟨ended', kept', ?_, ?_⟩
      · rw [withoutSink_append, seen, seen']
      · rw [written_append, shown, shown', List.flatMap_append, lineBytes_append]

/-- What no sink does of its own is the same with an output as without. -/
theorem filterMap_eq (renders : Renders format x y) {γ : Type} {read : Event → Option γ}
    (silent : ∀ event, event.isOfSink = true → read event = none) :
    (x .unlimited).trace.filterMap read = (y ()).trace.filterMap read := by
  rw [← filterMap_withoutSink silent, renders.2.2.1]

theorem within (target : String) (plain : Renders format x y) :
    Renders format (x.relabel (Event.within target) id) (y.relabel (Event.within target) id) := by
  obtain ⟨ended, kept, seen, shown⟩ := plain
  refine ⟨congrArg (Except.mapError id) ended, kept, ?_, ?_⟩
  · rw [relabel_apply, relabel_apply, withoutSink_within, seen]
  · rw [relabel_apply, relabel_apply, written_within, shown, List.flatMap_map]
    simp only [OutputFormat.shown_within]

/-- An event that the sink is told of, and the lines that it makes of it. -/
theorem call {event : Event} {made : SinkAction Writer Unit}
    (prints : Prints made (format.shown event)) (step : event.isStep = true) :
    Renders format
      (do Traced.emit event; made.relabel SinkEvent.toEvent Failure.output)
      (do Traced.emit event
          (pure () : SinkAction Unit Unit).relabel SinkEvent.toEvent Failure.output) := by
  obtain ⟨⟨ended, kept⟩, shown⟩ := prints
  have told : withoutSink [event] = [event] ∧ written [event] = [] := by
    cases event <;> first | exact ⟨rfl, rfl⟩ | cases step
  rw [Renders, bind_of_ok (emit_apply event _), bind_of_ok (emit_apply event _)]
  simp only [relabel_apply, pure_apply]
  refine ⟨by rw [ended], kept, ?_, ?_⟩
  · rw [withoutSink_append, told.1, withoutSink_sink]
    rfl
  · rw [written_append, told.2, shown]
    simp

end Traced.Renders

namespace Lookup

variable {σ : Type}

theorem renders_related (source : Source) (reportBase : String) (format : OutputFormat) :
    Related ⟨source, reportBase, format.sink⟩ ⟨source, reportBase, .silent⟩
      (Traced.Renders format) where
  reportBase := rfl
  pure _ := ⟨rfl, rfl, rfl, rfl⟩
  fail _ _ := ⟨rfl, rfl, rfl, rfl⟩
  bind := .bind
  within target _ _ plain := plain.within target
  log level text := by
    refine ⟨rfl, rfl, rfl, ?_⟩
    cases format <;> rfl
  note line := .call (format.note_prints line) rfl
  report r := .call (format.report_prints r) rfl
  fetch path resource := by
    rw [Traced.Renders, fetch_apply, fetch_apply]
    refine ⟨rfl, rfl, ?_, ?_⟩
    · exact congrArg _ (withoutSink_source _)
    · rw [List.flatMap_cons, format.flatMap_shown_source]
      cases format <;> exact written_source _

theorem flatMap_shown_asked (l : Lookup σ) (format : OutputFormat) (path : String)
    (resource : Resource) : (l.asked path resource).flatMap format.shown = [] := by
  rw [asked, List.flatMap_cons, format.flatMap_shown_steps, format.flatMap_shown_source]
  cases format <;> rfl

theorem flatMap_shown_targetScript (l : Lookup σ) (format : OutputFormat) (path : String) :
    (l.targetScript path).flatMap format.shown =
      format.shown (.note (targetNote path)) ++
        (l.answer path).toOption.elim [] fun r => format.shown (.report r) := by
  rw [targetScript, List.flatMap_append, List.flatMap_append, flatMap_shown_asked,
    List.flatMap_singleton]
  cases l.answer path <;> simp [handedOver, Except.toOption]

theorem flatMap_shown_resolveScript (l : Lookup σ) (format : OutputFormat) (input : String) :
    (l.resolveScript input).flatMap format.shown =
      (notes (l.resolveScript input)).flatMap fun line => format.shown (.note line) := by
  rw [notes_resolveScript]
  unfold resolveScript
  split
  · rfl
  · rw [List.flatMap_append, flatMap_shown_asked, List.append_nil]
    rfl

/-- What is seen of a run: it announces what it resolves, goes through some targets, and may have a
last word. -/
def runScript (l : Lookup σ) (input : String) (targets closing : List String) : List Event :=
  l.resolveScript input ++ (targets.flatMap l.targetScript ++ closing.map Event.note)

/-- What is said last: that all targets have reports. -/
def lastNotes (input : String) : Except Failure Unit → List String
  | .ok () => [successNote input]
  | .error _ => []

/-- An argument that does not resolve has no targets, and its failure is that of the run. -/
theorem run_follows_runScript (l : Lookup σ) {inv : σ → Prop} {faults : OutputFault → Prop}
    (keeps : l.sink.Keeps inv faults) {input : String} {resolved : Except Failure (List String)}
    (names : l.Names input resolved) :
    Traced.Follows inv faults (l.run input)
      (l.runScript input (l.reached (resolved.toOption.getD []))
        (lastNotes input (resolved >>= l.verdict)))
      (resolved >>= l.verdict) := by
  cases resolved with
  | error failure =>
      have unresolved := l.run_follows_unresolved keeps names
      rw [← List.append_nil (l.resolveScript input)] at unresolved
      exact unresolved
  | ok paths =>
      have played := l.run_follows keeps names
      show Traced.Follows inv faults (l.run input)
        (l.runScript input (l.reached paths) (lastNotes input (l.verdict paths))) (l.verdict paths)
      cases verdict : l.verdict paths with
      | error failure =>
          rw [verdict] at played
          exact played
      | ok _ =>
          rw [verdict] at played
          exact played

theorem notes_runScript (l : Lookup σ) (input : String) (targets closing : List String) :
    notes (l.runScript input targets closing) =
      notes (l.resolveScript input) ++ targets.map targetNote ++ closing := by
  have last : notes (closing.map Event.note) = closing := by
    rw [notes, List.filterMap_map]
    exact List.filterMap_some
  rw [runScript, notes_append, notes_append, notes_targets, last, List.append_assoc]

theorem reports_runScript (l : Lookup σ) (input : String) (targets closing : List String) :
    reports (l.runScript input targets closing) =
      targets.filterMap fun path => (l.answer path).toOption := by
  have none : reports (closing.map Event.note) = [] := by
    rw [reports, List.filterMap_map]
    exact List.filterMap_eq_nil_iff.mpr fun _ _ => rfl
  rw [runScript, reports_append, reports_append, reports_resolveScript, reports_targets, none,
    List.nil_append, List.append_nil]

theorem flatMap_shown_runScript (l : Lookup σ) (format : OutputFormat) (input : String)
    (targets closing : List String) :
    (l.runScript input targets closing).flatMap format.shown =
      (notes (l.resolveScript input)).flatMap (fun line => format.shown (.note line)) ++
        (targets.flatMap (fun path => format.shown (.note (targetNote path)) ++
          (l.answer path).toOption.elim [] fun r => format.shown (.report r)) ++
        closing.flatMap fun line => format.shown (.note line)) := by
  rw [runScript, List.flatMap_append, List.flatMap_append, flatMap_shown_resolveScript,
    List.flatMap_assoc, List.flatMap_map]
  simp only [flatMap_shown_targetScript]

theorem lines_text (l : Lookup σ) (input : String) (targets closing : List String) :
    (l.runScript input targets closing).flatMap OutputFormat.text.shown =
      notes (l.resolveScript input) ++ targets.flatMap (fun path => targetNote path ::
        (l.answer path).toOption.elim [] Report.lines) ++ closing := by
  rw [flatMap_shown_runScript, ← List.append_assoc]
  simp only [OutputFormat.shown, List.flatMap_singleton', List.singleton_append]

theorem lines_json (l : Lookup σ) (input : String) (targets closing : List String) :
    (l.runScript input targets closing).flatMap OutputFormat.json.shown =
      targets.filterMap fun path => (l.answer path).toOption.map Report.json := by
  have silent (lines : List String) :
      (lines.flatMap fun line => OutputFormat.json.shown (.note line)) = [] :=
    List.flatMap_eq_nil_iff.mpr fun _ _ => rfl
  rw [flatMap_shown_runScript, silent, silent, List.nil_append, List.append_nil,
    List.filterMap_eq_flatMap_toList]
  congr 1
  funext path
  cases l.answer path <;> rfl

/-- The format decides nothing but the lines. Both runs ask for the same, warn of the same and end
in the same way: with the failure of the argument to resolve, or with that of the first target
without a report. In text each target up to that one has its note, and after it the four lines of
its report if it has one; in JSON it has the one line of that report. -/
theorem same_run_in_both_formats (source : Source) (reportBase input : String) :
    let text := run ⟨source, reportBase, .text⟩ input .unlimited
    let json := run ⟨source, reportBase, .json⟩ input .unlimited
    let l : Lookup Unit := ⟨source, reportBase, .silent⟩
    let resolved := (l.resolve input ()).result.map TargetSet.toList
    let targets := l.reached (resolved.toOption.getD [])
    let result := resolved >>= l.verdict
    let opening := if hasFragment input then [] else [s!"For metric report: {input}"]
    let closing := lastNotes input result
    fetches text.trace = fetches json.trace ∧ requests text.trace = requests json.trace ∧
      warnings text.trace = warnings json.trace ∧ text.result = result ∧ json.result = result ∧
      notes text.trace = opening ++ targets.map targetNote ++ closing ∧
      notes json.trace = notes text.trace ∧
      reports text.trace = (targets.filterMap fun path => (l.answer path).toOption) ∧
      reports json.trace = reports text.trace ∧
      (∀ path ∈ targets, ∀ r, l.answer path = .ok r → r.property = path ∧ r.lines.length = 4) ∧
      written text.trace = lineBytes (opening ++
        targets.flatMap (fun path => targetNote path ::
          (l.answer path).toOption.elim [] Report.lines) ++ closing) ∧
      written json.trace = lineBytes ((reports text.trace).map Report.json) := by
  intro text json l resolved targets result opening closing
  have inText : Traced.Renders .text _ _ := (renders_related source reportBase .text).run input
  have inJson : Traced.Renders .json _ _ := (renders_related source reportBase .json).run input
  have names : l.Names input resolved :=
    (l.names_iff Sink.silent_reliable (s := ()) trivial).mpr rfl
  obtain ⟨played, ended, -⟩ :=
    (l.run_follows_runScript Sink.silent_reliable.keeps names).complete (s := ()) trivial
  have announced : notes (l.resolveScript input) = opening := l.notes_resolveScript input
  have noted : notes (l.run input ()).trace = opening ++ targets.map targetNote ++ closing := by
    rw [← notes_steps, played, notes_runScript, announced]
  have handed : reports (l.run input ()).trace =
      targets.filterMap fun path => (l.answer path).toOption := by
    rw [← reports_steps, played, reports_runScript]
  have reported : reports text.trace = targets.filterMap fun path => (l.answer path).toOption :=
    (inText.filterMap_eq Event.report?_of_sink).trans handed
  refine ⟨?_, ?_, ?_, inText.1.trans ended, inJson.1.trans ended, ?_, ?_, reported, ?_, ?_, ?_, ?_⟩
  · exact (inText.filterMap_eq Event.fetch?_of_sink).trans
      (inJson.filterMap_eq Event.fetch?_of_sink).symm
  · exact (inText.filterMap_eq Event.request?_of_sink).trans
      (inJson.filterMap_eq Event.request?_of_sink).symm
  · exact (inText.filterMap_eq Event.warning?_of_sink).trans
      (inJson.filterMap_eq Event.warning?_of_sink).symm
  · exact (inText.filterMap_eq Event.note?_of_sink).trans noted
  · exact (inJson.filterMap_eq Event.note?_of_sink).trans
      (inText.filterMap_eq Event.note?_of_sink).symm
  · exact (inJson.filterMap_eq Event.report?_of_sink).trans
      (inText.filterMap_eq Event.report?_of_sink).symm
  · intro path _ r answered
    exact l.shape_of_answer answered
  · rw [← announced, ← l.lines_text, ← played, OutputFormat.flatMap_shown_steps]
    exact inText.2.2.2
  · rw [reported, List.map_filterMap]
    refine inJson.2.2.2.trans (congrArg lineBytes ?_)
    rw [← OutputFormat.flatMap_shown_steps, played]
    exact l.lines_json input _ _

/-- The first of two targets has a report and the second one none, so that both runs end between
them. -/
theorem same_run_in_both_formats_pair :
    let l : Lookup Unit := ⟨pairSource, "/reports/", .silent⟩
    let text := run ⟨pairSource, "/reports/", .text⟩ "Power" .unlimited
    let json := run ⟨pairSource, "/reports/", .json⟩ "Power" .unlimited
    text.result = .error (.status .attributes "/b" 404) ∧ json.result = text.result ∧
      ∃ r, l.answer "/a" = .ok r ∧ reports text.trace = [r] ∧ reports json.trace = [r] ∧
        written text.trace = lineBytes
          (["For metric report: Power", "Thresholds for mp:'/a' are below:"] ++ r.lines ++
            ["Thresholds for mp:'/b' are below:"]) ∧
        written json.trace = lineBytes [r.json] := by
  intro l text json
  have resolved : (l.resolve "Power" ()).result.map TargetSet.toList = .ok ["/a", "/b"] :=
    (l.names_iff Sink.silent_reliable trivial).mp (names_pair "/reports/" .silent)
  have failed : l.answer "/b" = .error (.status .attributes "/b" 404) := rfl
  obtain ⟨r, answered⟩ : ∃ r, l.answer "/a" = .ok r := ⟨_, rfl⟩
  have before : ∀ path ∈ ["/a"], ∃ r, l.answer path = .ok r :=
    List.forall_mem_singleton.mpr ⟨r, answered⟩
  have reached : l.reached ["/a", "/b"] = ["/a", "/b"] := (reached_of_failure before failed).1
  have verdict : l.verdict ["/a", "/b"] = .error (.status .attributes "/b" 404) :=
    (reached_of_failure before failed).2
  obtain ⟨-, -, -, inText, inJson, -, -, reported, same, -, texts, jsons⟩ :=
    same_run_in_both_formats pairSource "/reports/" "Power"
  rw [resolved] at inText inJson reported texts
  replace reported : reports text.trace =
      (l.reached ["/a", "/b"]).filterMap fun path => (l.answer path).toOption := reported
  replace texts : written text.trace = lineBytes (["For metric report: Power"] ++
      (l.reached ["/a", "/b"]).flatMap (fun path => targetNote path ::
        (l.answer path).toOption.elim [] Report.lines) ++
      lastNotes "Power" (l.verdict ["/a", "/b"])) := texts
  simp only [reached, List.filterMap_cons, List.filterMap_nil, answered, failed, Except.toOption]
    at reported
  simp only [reached, verdict, List.flatMap_cons, List.flatMap_nil, answered, failed,
    Except.toOption, Option.elim_some, Option.elim_none, lastNotes, List.append_nil] at texts
  rw [reported] at jsons same
  exact ⟨inText.trans verdict, inJson.trans inText.symm, r, answered, reported, same, texts, jsons⟩

end Lookup
end SensorThresholds
