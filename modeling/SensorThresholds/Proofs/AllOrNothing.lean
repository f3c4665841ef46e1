import SensorThresholds.Proofs.Fragments
import SensorThresholds.Proofs.OutputFormats

/-!
A target, all or nothing. Its report is handed over once all of its document has been read and every
threshold is in range. Whatever fails before that, the sink is told nothing but the note.
-/

namespace SensorThresholds
open Trace

variable {σ : Type}

/-- A call of the sink or of the source. -/
def Event.isMove : Event → Bool
  | .note _ | .report _ | .fetch .. => true
  | _ => false

theorem Event.isMove_within (target : String) (event : Event) :
    (event.within target).isMove = event.isMove := by
  cases event <;> rfl

namespace Trace

def moves (trace : List Event) : List Event := trace.filter Event.isMove

/-- What is seen of a trace: the calls, the bytes that reach the output, and the warnings. -/
structure Shows (trace made : List Event) (bytes : List UInt8) (warned : List LogEntry) : Prop where
  moves : moves trace = made
  written : written trace = bytes
  warnings : warnings trace = warned

namespace Shows

variable {trace later made made' : List Event} {bytes bytes' : List UInt8}
  {warned warned' : List LogEntry}

theorem append (first : Shows trace made bytes warned) (second : Shows later made' bytes' warned') :
    Shows (trace ++ later) (made ++ made') (bytes ++ bytes') (warned ++ warned') where
  moves := by rw [Trace.moves, List.filter_append, ← first.moves, ← second.moves]; rfl
  written := by rw [written_append, first.written, second.written]
  warnings := by rw [Trace.warnings, List.filterMap_append, ← first.warnings, ← second.warnings]; rfl

/-- What is named in the log is named in the warnings. -/
theorem within (target : String) (shows : Shows trace made bytes warned) :
    Shows (trace.map (Event.within target)) made bytes
      (warned.map ({ · with target := some target })) where
  moves := by
    have named : ∀ event ∈ trace.filter Event.isMove, event.within target = event := by
      intro event member
      cases event with
      | log entry => exact absurd (List.mem_filter.mp member).2 Bool.false_ne_true
      | _ => rfl
    have same : Event.isMove ∘ Event.within target = Event.isMove :=
      funext (Event.isMove_within target)
    rw [Trace.moves, List.filter_map, same, List.map_congr_left named, List.map_id']
    exact shows.moves
  written := by rw [written_within, shows.written]
  warnings := by
    rw [← shows.warnings, Trace.warnings, Trace.warnings, List.filterMap_map, List.map_filterMap]
    congr 1
    funext event
    cases event with
    | log entry =>
        show Event.warning? (.log _) = Option.map _ (Event.warning? (.log entry))
        simp only [Event.warning?]
        split <;> rfl
    | _ => rfl

theorem silent (quiet : ∀ event ∈ trace, event.isMove = false ∧ event.warning? = none) :
    Shows trace [] (Trace.written trace) [] where
  moves := List.filter_eq_nil_iff.mpr fun event member => by simp [(quiet event member).1]
  written := rfl
  warnings := List.filterMap_eq_nil_iff.mpr fun event member => (quiet event member).2

theorem sink (trace : List SinkEvent) :
    Shows (trace.map SinkEvent.toEvent) [] (Trace.written (trace.map SinkEvent.toEvent)) [] := by
  apply silent
  intro event member
  obtain ⟨original, -, rfl⟩ := List.mem_map.mp member
  cases original <;> exact ⟨rfl, rfl⟩

theorem source (trace : List SourceEvent) : Shows (trace.map SourceEvent.toEvent) [] [] [] := by
  rw [← written_source trace]
  apply silent
  intro event member
  obtain ⟨original, -, rfl⟩ := List.mem_map.mp member
  cases original <;> exact ⟨rfl, rfl⟩

end Shows

theorem reports_moves (trace : List Event) : reports (moves trace) = reports trace := by
  apply filterMap_filter_eq
  intro event quiet
  cases event with
  | report r => cases quiet
  | _ => rfl

end Trace

theorem Trace.Shows.reports {trace made : List Event} {bytes : List UInt8} {warned : List LogEntry}
    (shows : Shows trace made bytes warned) : reports trace = reports made := by
  rw [← shows.moves, reports_moves]

namespace Lookup

/-- The bytes that reach the output in a call of the sink. -/
def bytesOf (call : Outcome SinkEvent OutputFault σ Unit) : List UInt8 :=
  written (call.trace.map SinkEvent.toEvent)

/-- What the sink makes of the note on a target. -/
def noted (l : Lookup σ) (path : String) (s : σ) : Outcome SinkEvent OutputFault σ Unit :=
  l.sink.note (targetNote path) s

/-- The ways in which a target goes: it ends over the note, or for want of a report, or it comes to
its report, whatever the sink makes of that. -/
inductive Goes (l : Lookup σ) (path : String) (s : σ) (warned : List LogEntry) :
    Outcome Event Failure σ Report → Prop
  | unsaid {trace : List Event} {fault : OutputFault}
      (said : (l.noted path s).result = .error fault)
      (shows : Shows trace [.note (targetNote path)] (bytesOf (l.noted path s)) []) :
      Goes l path s warned ⟨trace, (l.noted path s).state, .error (.output fault)⟩
  | unanswered {trace : List Event} {failure : Failure}
      (said : (l.noted path s).result = .ok ()) (answered : l.answer path = .error failure)
      (shows : Shows trace [.note (targetNote path), .fetch path .attributes]
        (bytesOf (l.noted path s)) warned) :
      Goes l path s warned ⟨trace, (l.noted path s).state, .error failure⟩
  | handed {trace : List Event} {r : Report} {call : Outcome SinkEvent OutputFault σ Unit}
      (said : (l.noted path s).result = .ok ()) (answered : l.answer path = .ok r)
      (told : l.sink.report r (l.noted path s).state = call)
      (shows : Shows trace [.note (targetNote path), .fetch path .attributes, .report r]
        (bytesOf (l.noted path s) ++ bytesOf call) warned) :
      Goes l path s warned ⟨trace, call.state, (call.result.mapError Failure.output).map fun _ => r⟩

variable {l : Lookup σ} {path : String} {s : σ} {warned : List LogEntry}
  {lookup : Outcome Event Failure σ Report}

theorem Goes.within (target : String) (goes : Goes l path s warned lookup) :
    Goes l path s (warned.map ({ · with target := some target }))
      ⟨lookup.trace.map (Event.within target), lookup.state, lookup.result⟩ := by
  cases goes with
  | unsaid said shows => exact .unsaid said (shows.within target)
  | unanswered said answered shows => exact .unanswered said answered (shows.within target)
  | handed said answered told shows => exact .handed said answered told (shows.within target)

end Lookup
end SensorThresholds
