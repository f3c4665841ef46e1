import SensorThresholds.Proofs.Run

/-!
What a run on a sink that takes everything shows. Its targets are asked for one after the other until
one has no report; with that the run fails, and nothing follows but log lines. A run in which all
targets have reports says so at its end.
-/

namespace SensorThresholds
open Trace

variable {σ α β : Type}

def Event.isLog : Event → Bool
  | .log _ => true
  | _ => false

/-- Nothing is seen of the computation but in the log. -/
def Traced.OnlyLogs (x : Action σ α) : Prop := ∀ s, ∀ event ∈ (x s).trace, event.isLog = true

namespace Traced.OnlyLogs

theorem pure (a : α) : OnlyLogs (pure a : Action σ α) := fun _ _ member => by cases member

theorem fail (failure : Failure) : OnlyLogs (Traced.fail failure : Action σ α) :=
  fun _ _ member => by cases member

theorem ofExcept (result : Except Failure α) : OnlyLogs (Traced.ofExcept result : Action σ α) := by
  cases result with
  | ok a => exact pure a
  | error failure => exact fail failure

theorem log (entry : LogEntry) : OnlyLogs (Traced.emit (.log entry) : Action σ Unit) :=
  fun _ _ member => by rw [List.mem_singleton.mp member]; rfl

theorem bind {x : Action σ α} {f : α → Action σ β} (first : OnlyLogs x)
    (second : ∀ a, OnlyLogs (f a)) : OnlyLogs (x >>= f) := by
  intro s event member
  cases ended : (x s).result with
  | error failure =>
      rw [trace_bind_of_error ended] at member
      exact first s event member
  | ok a =>
      rw [trace_bind_of_ok ended] at member
      rcases List.mem_append.mp member with member | member
      · exact first s event member
      · exact second a _ event member

end Traced.OnlyLogs

/-- The trace of the computation ends in a stretch with the property. -/
def Traced.Leaves (inv : σ → Prop) (x : Action σ α) (last : List Event → Prop) : Prop :=
  ∀ s, inv s → ∃ earlier later, (x s).trace = earlier ++ later ∧ last later

namespace Traced.Leaves

variable {inv : σ → Prop} {x : Action σ α} {f : α → Action σ β} {script : List Event} {a : α}
  {failure : Failure} {last : List Event → Prop}

theorem bind (first : Follows inv (fun _ => False) x script (.ok a))
    (second : Leaves inv (f a) last) : Leaves inv (x >>= f) last := by
  intro s start
  obtain ⟨-, ended, kept⟩ := first.complete start
  obtain ⟨earlier, later, parts, property⟩ := second _ kept
  refine ⟨(x s).trace ++ earlier, later, ?_, property⟩
  rw [trace_bind_of_ok ended, parts, List.append_assoc]

theorem bind_error (leaves : Leaves inv x last)
    (failed : Follows inv (fun _ => False) x script (.error failure)) :
    Leaves inv (x >>= f) last := by
  intro s start
  rw [trace_bind_of_error (failed.complete start).2.1]
  exact leaves s start

end Traced.Leaves

namespace Lookup

variable {inv : σ → Prop}

theorem attributePaths_targets (l : Lookup σ) (paths : List String) :
    attributePaths (paths.flatMap l.targetScript) = paths := by
  rw [attributePaths, fetches_targets, List.filterMap_map]
  exact List.filterMap_some

theorem reports_of_answered (l : Lookup σ) {paths : List String}
    (answered : ∀ path ∈ paths, ∃ r, l.answer path = .ok r) :
    (paths.filterMap fun path => (l.answer path).toOption).map Except.ok =
      paths.map l.answer := by
  induction paths with
  | nil => rfl
  | cons path rest ih =>
      obtain ⟨⟨r, first⟩, later⟩ := List.forall_mem_cons.mp answered
      rw [List.filterMap_cons, List.map_cons, ← ih later, first]
      rfl

/-- What is seen of asking for the attributes of a target while it is looked up. -/
def exchange (l : Lookup σ) (path : String) : List Event :=
  .fetch path .attributes ::
    (l.source path .attributes ()).trace.map fun event => event.toEvent.within path

theorem isLog_within (target : String) (event : Event) :
    (event.within target).isLog = event.isLog := by
  cases event <;> rfl

/-- What a run does whose targets all have reports. -/
structure Completes (l : Lookup σ) (input : String) (paths : List String)
    (run : Outcome Event Failure σ Unit) : Prop where
  answered : ∀ path ∈ paths, ∃ r, l.answer path = .ok r
  asked : attributePaths run.trace = paths
  reported : (reports run.trace).map Except.ok = paths.map l.answer
  returned : run.result = .ok ()
  last : ∃ earlier, steps run.trace = earlier ++ [.note (successNote input)]

theorem attributePaths_resolveScript (l : Lookup σ) (input : String) :
    attributePaths (l.resolveScript input) = [] := by
  rw [attributePaths, fetches_resolveScript]
  split <;> rfl

theorem completes_of_played (l : Lookup σ) {input : String} {paths : List String}
    (answered : ∀ path ∈ paths, ∃ r, l.answer path = .ok r) {run : Outcome Event Failure σ Unit}
    (played : steps run.trace =
      l.resolveScript input ++ (paths.flatMap l.targetScript ++ closing input (.ok ())))
    (returned : run.result = .ok ()) : l.Completes input paths run := by
  refine ⟨answered, ?_, ?_, returned, _, by rw [played, closing, ← List.append_assoc]⟩
  · rw [← attributePaths_steps, played, attributePaths_append, attributePaths_append,
      attributePaths_resolveScript, attributePaths_targets]
    exact List.append_nil paths
  · rw [← reports_steps, played, reports_append, reports_append, reports_resolveScript,
      reports_targets, ← reports_of_answered l answered]
    exact congrArg (List.map Except.ok) (List.append_nil _)

theorem run_completes (l : Lookup σ) (reliable : l.sink.Reliable inv) {input : String}
    {paths : List String} (names : l.Names input (.ok paths)) {s : σ} (start : inv s)
    (answered : ∀ path ∈ paths, ∃ r, l.answer path = .ok r) :
    l.Completes input paths (l.run input s) := by
  obtain ⟨played, returned, -⟩ := (l.run_follows reliable.keeps names).complete start
  rw [(reached_of_answered answered).1, (reached_of_answered answered).2] at played
  rw [(reached_of_answered answered).2] at returned
  exact completes_of_played l answered played returned

end Lookup
end SensorThresholds
