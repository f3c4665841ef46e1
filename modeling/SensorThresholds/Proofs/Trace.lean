import SensorThresholds.Lookup

/-!
What can be read off a trace: the notes and reports handed to the sink, the documents asked for, and
the requests sent for them. These are the steps of a lookup. What the sink does with its output, and
what goes to the log, is left out.
-/

namespace SensorThresholds

namespace Event

def isStep : Event → Bool
  | note _ | report _ | fetch .. | request _ => true
  | write _ | flush | log _ => false

def note? : Event → Option String
  | note line => some line
  | _ => none

def report? : Event → Option Report
  | report r => some r
  | _ => none

def fetch? : Event → Option (String × Resource)
  | fetch path resource => some (path, resource)
  | _ => none

def request? : Event → Option Request
  | request r => some r
  | _ => none

def isFlush : Event → Bool
  | flush => true
  | _ => false

theorem isStep_within (target : String) (event : Event) :
    (event.within target).isStep = event.isStep := by
  cases event <;> rfl

/-- The outermost name is the one that the log shows. -/
theorem within_within (target other : String) (event : Event) :
    (event.within other).within target = event.within target := by
  cases event <;> rfl

theorem within_of_isStep (target : String) (event : Event) (step : event.isStep = true) :
    event.within target = event := by
  cases event with
  | log entry => cases step
  | _ => rfl

end Event

namespace Trace

def steps (trace : List Event) : List Event := trace.filter Event.isStep

def notes (trace : List Event) : List String := trace.filterMap Event.note?

def reports (trace : List Event) : List Report := trace.filterMap Event.report?

def fetches (trace : List Event) : List (String × Resource) := trace.filterMap Event.fetch?

def requests (trace : List Event) : List Request := trace.filterMap Event.request?

/-- The bytes that reach the output. -/
def written (trace : List Event) : List UInt8 :=
  trace.flatMap fun
    | .write bytes => bytes
    | _ => []

def flushes (trace : List Event) : Nat := trace.countP Event.isFlush

/-- The paths at which attributes are asked for. -/
def attributePaths (trace : List Event) : List String :=
  (fetches trace).filterMap fun (path, resource) =>
    if resource = .attributes then some path else none

theorem steps_append (first second : List Event) :
    steps (first ++ second) = steps first ++ steps second := List.filter_append ..

/-- What passes over all that a filter drops passes through the filter. -/
theorem filterMap_filter_eq {β : Type} {keep : Event → Bool} {f : Event → Option β}
    (silent : ∀ event, keep event = false → f event = none) (trace : List Event) :
    (trace.filter keep).filterMap f = trace.filterMap f := by
  rw [List.filterMap_filter]
  congr 1
  funext event
  cases kept : keep event with
  | true => simp
  | false => simp [silent event kept]

/-- What is read off the steps alone can be read off them. -/
theorem filterMap_steps {β : Type} (f : Event → Option β) (trace : List Event)
    (silent : ∀ event, event.isStep = false → f event = none) :
    (steps trace).filterMap f = trace.filterMap f := filterMap_filter_eq silent trace

theorem notes_steps (trace : List Event) : notes (steps trace) = notes trace := by
  apply filterMap_steps
  intro event quiet
  cases event with
  | note line => cases quiet
  | _ => rfl

theorem reports_steps (trace : List Event) : reports (steps trace) = reports trace := by
  apply filterMap_steps
  intro event quiet
  cases event with
  | report r => cases quiet
  | _ => rfl

theorem fetches_steps (trace : List Event) : fetches (steps trace) = fetches trace := by
  apply filterMap_steps
  intro event quiet
  cases event with
  | fetch path resource => cases quiet
  | _ => rfl

theorem requests_steps (trace : List Event) : requests (steps trace) = requests trace := by
  apply filterMap_steps
  intro event quiet
  cases event with
  | request r => cases quiet
  | _ => rfl

theorem attributePaths_steps (trace : List Event) :
    attributePaths (steps trace) = attributePaths trace := by
  rw [attributePaths, fetches_steps, attributePaths]

theorem notes_append (first second : List Event) :
    notes (first ++ second) = notes first ++ notes second := List.filterMap_append ..

theorem reports_append (first second : List Event) :
    reports (first ++ second) = reports first ++ reports second := List.filterMap_append ..

theorem fetches_append (first second : List Event) :
    fetches (first ++ second) = fetches first ++ fetches second := List.filterMap_append ..

theorem requests_append (first second : List Event) :
    requests (first ++ second) = requests first ++ requests second := List.filterMap_append ..

theorem written_append (first second : List Event) :
    written (first ++ second) = written first ++ written second := List.flatMap_append ..

theorem flushes_append (first second : List Event) :
    flushes (first ++ second) = flushes first + flushes second := List.countP_append ..

theorem attributePaths_append (first second : List Event) :
    attributePaths (first ++ second) = attributePaths first ++ attributePaths second := by
  rw [attributePaths, fetches_append, List.filterMap_append, attributePaths, attributePaths]

theorem steps_within (target : String) (trace : List Event) :
    steps (trace.map (Event.within target)) = steps trace := by
  induction trace with
  | nil => rfl
  | cons event rest ih =>
      simp only [steps, List.map_cons, List.filter_cons, Event.isStep_within] at ih ⊢
      cases step : event.isStep with
      | true => simp [ih, Event.within_of_isStep target event step]
      | false => simp [ih]

theorem fetches_within (target : String) (trace : List Event) :
    fetches (trace.map (Event.within target)) = fetches trace := by
  rw [← fetches_steps, steps_within, fetches_steps]

theorem requests_within (target : String) (trace : List Event) :
    requests (trace.map (Event.within target)) = requests trace := by
  rw [← requests_steps, steps_within, requests_steps]

/-- Nothing that a sink does of its own is a step. -/
theorem steps_sink (trace : List SinkEvent) : steps (trace.map SinkEvent.toEvent) = [] := by
  rw [steps, List.filter_eq_nil_iff]
  intro event member
  obtain ⟨original, -, rfl⟩ := List.mem_map.mp member
  cases original <;> simp [SinkEvent.toEvent, Event.isStep]

end Trace
end SensorThresholds
