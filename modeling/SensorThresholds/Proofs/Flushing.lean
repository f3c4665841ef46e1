import SensorThresholds.Proofs.OutputFormats

/-!
Nothing waits in a buffer while the source is asked. Both sinks flush what they write before a call
of them ends, so that the line that names a document is out before the document is asked for, and a
run that did not fail over its output leaves nothing behind.
-/

namespace SensorThresholds
open Trace

variable {σ α β : Type}

/-- What waits to be flushed after an event. -/
def Event.waiting (before : List UInt8) : Event → List UInt8
  | .write bytes => before ++ bytes
  | .flush => []
  | _ => before

namespace Trace

/-- The bytes that no flush has followed. -/
def unflushed (trace : List Event) : List UInt8 := trace.foldl Event.waiting []

theorem unflushed_append {first : List Event} (clear : unflushed first = [])
    (second : List Event) : unflushed (first ++ second) = unflushed second := by
  unfold unflushed at clear ⊢
  rw [List.foldl_append, clear]

theorem unflushed_flush (trace : List Event) : unflushed (trace ++ [.flush]) = [] := by
  unfold unflushed
  rw [List.foldl_append]
  rfl

theorem unflushed_within (target : String) (trace : List Event) :
    unflushed (trace.map (Event.within target)) = unflushed trace := by
  unfold unflushed
  rw [List.foldl_map]
  congr 1
  funext before event
  cases event <;> rfl

theorem unflushed_source (trace : List SourceEvent) :
    unflushed (trace.map SourceEvent.toEvent) = [] := by
  induction trace with
  | nil => rfl
  | cons event rest ih =>
      have clear : unflushed [event.toEvent] = [] := by cases event <;> rfl
      exact (unflushed_append clear _).trans ih

/-- The lines of all that was shown are written, and have been flushed. -/
structure Flushed (format : OutputFormat) (trace : List Event) : Prop where
  shown : written trace = lineBytes (trace.flatMap format.shown)
  clear : unflushed trace = []

namespace Flushed

variable {format : OutputFormat} {first second trace : List Event}

theorem nil : Flushed format [] := ⟨rfl, rfl⟩

theorem append (early : Flushed format first) (late : Flushed format second) :
    Flushed format (first ++ second) where
  shown := by rw [written_append, early.shown, late.shown, List.flatMap_append, lineBytes_append]
  clear := by rw [unflushed_append early.clear, late.clear]

theorem within (target : String) (plain : Flushed format trace) :
    Flushed format (trace.map (Event.within target)) where
  shown := by
    rw [written_within, plain.shown, List.flatMap_map]
    simp only [OutputFormat.shown_within]
  clear := by rw [unflushed_within, plain.clear]

theorem log (entry : LogEntry) : Flushed format [.log entry] where
  shown := by cases format <;> rfl
  clear := rfl

/-- What the sink is told of, and all that it makes of it. -/
theorem told {event : Event} (step : event.isStep = true) {trace : List SinkEvent}
    (shown : written (trace.map SinkEvent.toEvent) = lineBytes (format.shown event))
    (clear : unflushed (trace.map SinkEvent.toEvent) = []) :
    Flushed format (event :: trace.map SinkEvent.toEvent) := by
  have nothing : written [event] = [] ∧ unflushed [event] = [] := by
    cases event <;> first | exact ⟨rfl, rfl⟩ | cases step
  have alone : (trace.map SinkEvent.toEvent).flatMap format.shown = [] := by
    rw [← format.flatMap_shown_steps, steps_sink, List.flatMap_nil]
  constructor
  · rw [List.flatMap_cons, alone, List.append_nil, ← shown, ← List.singleton_append,
      written_append, nothing.1, List.nil_append]
  · exact (unflushed_append nothing.2 _).trans clear

/-- A request for a document shows nothing. -/
theorem asked (path : String) (resource : Resource) (trace : List SourceEvent) :
    Flushed format (.fetch path resource :: trace.map SourceEvent.toEvent) where
  shown := by
    rw [List.flatMap_cons, format.flatMap_shown_source]
    cases format <;> exact written_source trace
  clear := unflushed_source trace

end Flushed

theorem fetches_source (trace : List SourceEvent) :
    fetches (trace.map SourceEvent.toEvent) = [] := by
  rw [fetches, List.filterMap_eq_nil_iff]
  intro event member
  obtain ⟨original, -, rfl⟩ := List.mem_map.mp member
  cases original <;> rfl

theorem not_split_of_no_fetch {trace before after : List Event} {path : String}
    {resource : Resource} (none : fetches trace = []) :
    trace ≠ before ++ .fetch path resource :: after := by
  rintro rfl
  rw [fetches_append] at none
  cases (List.append_eq_nil_iff.mp none).2

end Trace

/-- A call that succeeds writes the lines. -/
def Traced.Puts (call : SinkAction Writer Unit) (lines : List String) : Prop :=
  ∀ w, (call w).result = .ok () →
    written ((call w).trace.map SinkEvent.toEvent) = lineBytes lines

/-- A call that succeeds writes the lines and flushes them. -/
def Traced.Delivers (call : SinkAction Writer Unit) (lines : List String) : Prop :=
  ∀ w, (call w).result = .ok () →
    written ((call w).trace.map SinkEvent.toEvent) = lineBytes lines ∧
      unflushed ((call w).trace.map SinkEvent.toEvent) = []

namespace Traced.Puts

theorem putLine (line : String) : Puts (Writer.putLine line) [line] := by
  intro w ended
  rw [Writer.putLine] at ended ⊢
  rw [Writer.put_of_ok (Utf8.encode_line_ne_nil line) ended]
  exact (Writer.written_write _).trans (List.flatMap_singleton ..).symm

theorem putLines (lines : List String) : Puts (putLines lines) lines := by
  induction lines with
  | nil =>
      intro w _
      rfl
  | cons line rest ih =>
      intro w ended
      obtain ⟨_, first, later⟩ := bind_result_eq_ok_iff.mp ended
      have parts : (SensorThresholds.putLines (line :: rest) w).trace = _ :=
        trace_bind_of_ok first
      rw [parts, List.map_append, written_append, putLine line w first, ih _ later]
      exact (lineBytes_append [line] rest).symm

/-- A flush at the end makes a delivery of it. -/
theorem flush {call : SinkAction Writer Unit} {lines : List String} (puts : Puts call lines) :
    Delivers (call >>= fun _ => Writer.flush) lines := by
  intro w ended
  obtain ⟨_, first, later⟩ := bind_result_eq_ok_iff.mp ended
  rw [trace_bind_of_ok first, Writer.flush_of_ok later, List.map_append]
  constructor
  · rw [written_append, puts w first]
    exact List.append_nil _
  · exact unflushed_flush _

end Traced.Puts

namespace OutputFormat

theorem note_delivers (format : OutputFormat) (line : String) :
    Traced.Delivers (format.sink.note line) (format.shown (.note line)) := by
  cases format with
  | text => exact (Traced.Puts.putLine line).flush
  | json =>
      intro w _
      exact ⟨rfl, rfl⟩

theorem report_delivers (format : OutputFormat) (r : Report) :
    Traced.Delivers (format.sink.report r) (format.shown (.report r)) := by
  cases format with
  | text => exact (Traced.Puts.putLines r.lines).flush
  | json => exact (Traced.Puts.putLine r.json).flush

end OutputFormat

/-- Whatever the output takes, all that is shown is out when a document is asked for, and at the end
unless the output fails. -/
def Traced.Prompt (format : OutputFormat) (x : Action Writer α) : Prop := ∀ w,
  (∀ before path resource after, (x w).trace = before ++ .fetch path resource :: after →
    Flushed format before) ∧
  ((∀ fault, (x w).result ≠ .error (.output fault)) → Flushed format (x w).trace)

namespace Traced.Prompt

variable {format : OutputFormat} {x : Action Writer α} {f : α → Action Writer β}

/-- Where no document is asked for, the end is all that matters. -/
theorem of_no_fetch (none : ∀ w, fetches (x w).trace = [])
    (ending : ∀ w, (∀ fault, (x w).result ≠ .error (.output fault)) →
      Flushed format (x w).trace) : Prompt format x :=
  fun w => ⟨fun _ _ _ _ parts => absurd parts (not_split_of_no_fetch (none w)), ending w⟩

theorem pure (a : α) : Prompt format (pure a : Action Writer α) :=
  of_no_fetch (fun _ => rfl) fun _ _ => .nil

theorem fail (failure : Failure) : Prompt format (fail failure : Action Writer α) :=
  of_no_fetch (fun _ => rfl) fun _ _ => .nil

theorem log (level : Level) (text : String) :
    Prompt format (Lookup.log level text : Action Writer Unit) :=
  of_no_fetch (fun _ => rfl) fun _ _ => .log _

/-- An event that the sink is told of. -/
theorem call {event : Event} {made : SinkAction Writer Unit}
    (delivers : Delivers made (format.shown event)) (step : event.isStep = true)
    (quiet : event.fetch? = none) :
    Prompt format (do
      Traced.emit event
      made.relabel SinkEvent.toEvent Failure.output) := by
  have told (w : Writer) : (do
      Traced.emit event
      made.relabel SinkEvent.toEvent Failure.output : Action Writer Unit) w =
      ⟨event :: (made w).trace.map SinkEvent.toEvent, (made w).state,
        (made w).result.mapError Failure.output⟩ := by
    rw [bind_of_ok (emit_apply event w), relabel_apply]
    rfl
  apply of_no_fetch
  · intro w
    rw [told, ← List.singleton_append, fetches_append, ← fetches_steps (List.map _ _),
      steps_sink]
    simp [fetches, quiet]
  · intro w fine
    rw [told] at fine ⊢
    cases ended : (made w).result with
    | ok _ => exact .told step (delivers w ended).1 (delivers w ended).2
    | error fault =>
        rw [ended] at fine
        exact absurd rfl (fine fault)

/-- A document is asked for before anything else happens. -/
theorem fetch (l : Lookup Writer) (path : String) (resource : Resource) :
    Prompt format (l.fetch path resource) := by
  intro w
  rw [Lookup.fetch_apply]
  refine ⟨?_, fun _ => .asked path resource _⟩
  intro before path' resource' after parts
  cases before with
  | nil => exact .nil
  | cons head before =>
      exact absurd (List.cons.inj parts).2 (not_split_of_no_fetch (fetches_source _))

theorem bind (first : Prompt format x) (second : ∀ a, Prompt format (f a)) :
    Prompt format (x >>= f) := by
  intro w
  obtain ⟨asking, ending⟩ := first w
  rcases ran : x w with ⟨trace, w', failure | a⟩
  · rw [ran] at asking ending
    rw [bind_of_error ran]
    refine ⟨asking, fun fine => ending fun fault failed => fine fault ?_⟩
    rw [Except.error.inj failed]
  · rw [ran] at asking ending
    rw [bind_of_ok ran]
    obtain ⟨asking', ending'⟩ := second a w'
    have early : Flushed format trace := ending fun fault failed => by cases failed
    refine ⟨?_, fun fine => early.append (ending' fine)⟩
    intro before path resource after parts
    -- All of the first part comes before a request of the second one, and it ended well.
    rcases split_append parts with ⟨rest, inFirst⟩ | ⟨rest, rfl, inSecond⟩
    · exact asking before path resource rest inFirst
    · exact early.append (asking' rest path resource after inSecond)

theorem within (target : String) (plain : Prompt format x) :
    Prompt format (x.relabel (Event.within target) id) := by
  intro w
  obtain ⟨asking, ending⟩ := plain w
  rw [relabel_apply]
  constructor
  · intro before path resource after parts
    obtain ⟨before, rest, split, rfl, later⟩ := List.map_eq_append_iff.mp parts
    obtain ⟨event, after, rfl, same, rfl⟩ := List.map_eq_cons_iff.mp later
    cases event with
    | fetch path resource => exact (asking before path resource after split).within target
    | _ => cases same
  · intro fine
    apply Flushed.within target
    apply ending
    intro fault failed
    apply fine fault
    simp only [failed]
    rfl

end Traced.Prompt

/-- The line that names a document before it is asked for. -/
def announcement (input path : String) : Resource → String
  | .report => s!"For metric report: {input}"
  | .attributes => Lookup.targetNote path

/-- Right before a document is asked for stands the line that names it. -/
def Trace.Announced (input : String) (script : List Event) : Prop :=
  ∀ before path resource after, script = before ++ .fetch path resource :: after →
    ∃ earlier, before = earlier ++ [.note (announcement input path resource)]

namespace Trace.Announced

variable {input : String} {first second : List Event}

theorem of_no_fetch (none : fetches first = []) : Announced input first :=
  fun _ _ _ _ parts => absurd parts (not_split_of_no_fetch none)

theorem append (early : Announced input first) (late : Announced input second) :
    Announced input (first ++ second) := by
  intro before path resource after parts
  rcases split_append parts with ⟨rest, inFirst⟩ | ⟨rest, rfl, inSecond⟩
  · exact early before path resource rest inFirst
  · obtain ⟨earlier, rfl⟩ := late rest path resource after inSecond
    exact ⟨first ++ earlier, (List.append_assoc ..).symm⟩

theorem part (whole : Announced input second) (prefixed : first <+: second) :
    Announced input first := by
  obtain ⟨rest, rfl⟩ := prefixed
  intro before path resource after parts
  apply whole before path resource (after ++ rest)
  rw [parts, List.append_assoc, List.cons_append]

/-- A document is named and asked for, and no other is asked for later. -/
theorem asked (path : String) (resource : Resource) (none : fetches second = []) :
    Announced input
      (.note (announcement input path resource) :: .fetch path resource :: second) := by
  intro before path' resource' after parts
  cases before with
  | nil => cases parts
  | cons head before =>
      obtain ⟨rfl, later⟩ := List.cons.inj parts
      cases before with
      | nil =>
          obtain ⟨rfl, rfl⟩ := Event.fetch.inj (List.cons.inj later).1
          exact ⟨[], rfl⟩
      | cons head before => exact absurd (List.cons.inj later).2 (not_split_of_no_fetch none)

end Trace.Announced

namespace Lookup

theorem announced_asked (l : Lookup σ) (input path : String) (resource : Resource)
    (rest : List Event) (none : fetches rest = []) :
    Announced input
      ([.note (announcement input path resource)] ++ (l.asked path resource ++ rest)) := by
  apply Announced.asked
  have only : fetches (l.asked path resource ++ rest) = [(path, resource)] := by
    rw [fetches_append, fetches_asked, none, List.append_nil]
  exact (List.cons.inj only).2

theorem announced_targetScript (l : Lookup σ) (input path : String) :
    Announced input (l.targetScript path) := by
  apply l.announced_asked input path .attributes (handedOver (l.answer path))
  cases l.answer path <;> rfl

theorem announced_resolveScript (l : Lookup σ) (input : String) :
    Announced input (l.resolveScript input) := by
  unfold resolveScript
  split
  · exact .of_no_fetch rfl
  · have alone := l.announced_asked input (l.reportPath input) .report [] rfl
    rw [List.append_nil] at alone
    exact alone

theorem announced_runScript (l : Lookup σ) (input : String) (targets closing : List String) :
    Announced input (l.runScript input targets closing) := by
  apply (l.announced_resolveScript input).append
  apply Announced.append
  · induction targets with
    | nil => exact .of_no_fetch rfl
    | cons path rest ih => exact (l.announced_targetScript input path).append ih
  · apply Announced.of_no_fetch
    rw [fetches, List.filterMap_map]
    exact List.filterMap_eq_nil_iff.mpr fun _ _ => rfl

theorem run_announced (l : Lookup σ) (input : String) (s : σ) :
    Announced input (steps (l.run input s).trace) := by
  obtain ⟨result, names⟩ := l.exists_names input
  have follows := l.run_follows_runScript l.sink.keeps_trivial names
  exact (l.announced_runScript input _ _).part (follows.steps_part trivial)

theorem run_prompt (source : Source) (reportBase input : String) (format : OutputFormat) :
    Traced.Prompt format (run ⟨source, reportBase, format.sink⟩ input) := by
  let l : Lookup Writer := ⟨source, reportBase, format.sink⟩
  have related : l.Related l fun x _ => Traced.Prompt format x :=
    { reportBase := rfl
      pure := .pure
      fail failure _ := .fail failure
      bind := .bind
      within := fun target _ _ plain => plain.within target
      log := .log
      note := fun line => .call (format.note_delivers line) rfl rfl
      report := fun r => .call (format.report_delivers r) rfl rfl
      fetch := .fetch l }
  exact related.run input

/-- At every request for a document, and at the end of a run that did not fail over its output,
whatever was handed to the output has been flushed. The line that names the document was the last
one that the sink was told, and the last one written if the format shows it. -/
theorem shown_before_waiting (source : Source) (reportBase input : String)
    (format : OutputFormat) (w : Writer) :
    let outcome := run ⟨source, reportBase, format.sink⟩ input w
    (∀ before path resource after, outcome.trace = before ++ .fetch path resource :: after →
      unflushed before = [] ∧
      (∃ lines, notes before = lines ++ [announcement input path resource]) ∧
      ∃ lines, written before =
        lineBytes (lines ++ format.shown (.note (announcement input path resource)))) ∧
    ((∀ fault, outcome.result ≠ .error (.output fault)) →
      unflushed outcome.trace = [] ∧
      written outcome.trace = lineBytes (outcome.trace.flatMap format.shown)) := by
  intro outcome
  obtain ⟨asking, ending⟩ := run_prompt source reportBase input format w
  -- Where the request stands is known of the steps only, so that the line is read off these.
  refine ⟨?_, fun fine => ⟨(ending fine).clear, (ending fine).shown⟩⟩
  intro before path resource after parts
  obtain ⟨shown, clear⟩ := asking before path resource after parts
  have seen : steps outcome.trace = steps before ++ .fetch path resource :: steps after := by
    rw [parts, steps_append]
    rfl
  obtain ⟨earlier, named⟩ := run_announced _ input w _ path resource _ seen
  refine ⟨clear, ⟨notes earlier, ?_⟩, earlier.flatMap format.shown, ?_⟩
  · rw [← notes_steps, named, notes_append]
    rfl
  · rw [shown, ← format.flatMap_shown_steps, named, List.flatMap_append, List.flatMap_singleton]

end Lookup
end SensorThresholds
