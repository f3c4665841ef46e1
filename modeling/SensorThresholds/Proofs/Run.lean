import SensorThresholds.Proofs.Resolution

/-!
Whole runs as scripts. The targets of an argument are looked up in order, up to the first one without
a report, which ends the run with its failure.
-/

namespace SensorThresholds
open Trace

variable {σ : Type}

def successNote (input : String) : String := s!"Successfully found the thresholds for '{input}'."

namespace Lookup

variable {inv : σ → Prop} {faults : OutputFault → Prop}

/-- The targets that a run comes to: up to the first one without a report, and that one. -/
def reached (l : Lookup σ) : List String → List String
  | [] => []
  | path :: rest =>
    match l.answer path with
    | .ok _ => path :: reached l rest
    | .error _ => [path]

def verdict (l : Lookup σ) : List String → Except Failure Unit
  | [] => .ok ()
  | path :: rest =>
    match l.answer path with
    | .ok _ => verdict l rest
    | .error failure => .error failure

theorem fetchAll_follows (l : Lookup σ) (keeps : l.sink.Keeps inv faults) (paths : List String)
    (plain : ∀ path ∈ paths, stripFragment path = path) :
    Traced.Follows inv faults (l.fetchAll paths) ((l.reached paths).flatMap l.targetScript)
      (l.verdict paths) := by
  induction paths with
  | nil => exact .pure ()
  | cons path rest ih =>
      have first := fetchAndReport_follows l keeps (plain path List.mem_cons_self)
      have later := ih fun other member => plain other (List.mem_cons_of_mem _ member)
      cases answered : l.answer path with
      | error failure =>
          rw [answered] at first
          simp only [fetchAll, reached, verdict, answered, List.flatMap_cons, List.flatMap_nil,
            List.append_nil]
          exact first.bind_error
      | ok r =>
          rw [answered] at first
          simp only [fetchAll, reached, verdict, answered, List.flatMap_cons]
          exact first.bind later

/-- Either all targets have reports, or there is a first one without. -/
theorem answered_or_first_failure (l : Lookup σ) (paths : List String) :
    (∀ path ∈ paths, ∃ r, l.answer path = .ok r) ∨
      ∃ before target after failure, paths = before ++ target :: after ∧
        (∀ path ∈ before, ∃ r, l.answer path = .ok r) ∧ l.answer target = .error failure := by
  rcases forall_or_first_not (fun path => ∃ r, l.answer path = .ok r) paths with
    answered | ⟨before, target, after, order, answered, fault⟩
  · exact .inl answered
  · cases failed : l.answer target with
    | error failure => exact .inr ⟨before, target, after, failure, order, answered, failed⟩
    | ok r => exact absurd ⟨r, failed⟩ fault

/-- Targets with reports are gone through whatever follows them. -/
theorem reached_append (l : Lookup σ) {before : List String}
    (answered : ∀ path ∈ before, ∃ r, l.answer path = .ok r) (rest : List String) :
    l.reached (before ++ rest) = before ++ l.reached rest ∧
      l.verdict (before ++ rest) = l.verdict rest := by
  induction before with
  | nil => exact ⟨rfl, rfl⟩
  | cons path before ih =>
      obtain ⟨⟨r, first⟩, later⟩ := List.forall_mem_cons.mp answered
      obtain ⟨passed, ended⟩ := ih later
      constructor
      · simp only [List.cons_append, reached, first, passed]
      · simp only [List.cons_append, verdict, first, ended]

theorem reached_of_answered {l : Lookup σ} {paths : List String}
    (answered : ∀ path ∈ paths, ∃ r, l.answer path = .ok r) :
    l.reached paths = paths ∧ l.verdict paths = .ok () := by
  simpa [reached, verdict] using l.reached_append answered []

theorem reached_of_failure {l : Lookup σ} {before after : List String} {target : String}
    {failure : Failure} (answered : ∀ path ∈ before, ∃ r, l.answer path = .ok r)
    (failed : l.answer target = .error failure) :
    l.reached (before ++ target :: after) = before ++ [target] ∧
      l.verdict (before ++ target :: after) = .error failure := by
  simpa [reached, verdict, failed] using l.reached_append answered (target :: after)

theorem notes_targets (l : Lookup σ) (paths : List String) :
    notes (paths.flatMap l.targetScript) = paths.map targetNote := by
  induction paths with
  | nil => rfl
  | cons path rest ih =>
      rw [List.flatMap_cons, notes_append, notes_targetScript, ih, List.map_cons,
        List.singleton_append]

theorem reports_targets (l : Lookup σ) (paths : List String) :
    reports (paths.flatMap l.targetScript) =
      paths.filterMap fun path => (l.answer path).toOption := by
  induction paths with
  | nil => rfl
  | cons path rest ih =>
      rw [List.flatMap_cons, reports_append, reports_targetScript, ih, List.filterMap_cons]
      cases l.answer path <;> rfl

theorem fetches_targets (l : Lookup σ) (paths : List String) :
    fetches (paths.flatMap l.targetScript) = paths.map fun path => (path, .attributes) := by
  induction paths with
  | nil => rfl
  | cons path rest ih =>
      rw [List.flatMap_cons, fetches_append, fetches_targetScript, ih, List.map_cons,
        List.singleton_append]

def closing (input : String) : Except Failure Unit → List Event
  | .ok () => [.note (successNote input)]
  | .error _ => []

theorem fetches_closing (input : String) (result : Except Failure Unit) :
    fetches (closing input result) = [] := by
  cases result <;> rfl

theorem reports_closing (input : String) (result : Except Failure Unit) :
    reports (closing input result) = [] := by
  cases result <;> rfl

theorem warnOfNone_follows (input : String) (targets : TargetSet) :
    Traced.Follows inv faults (warnOfNone input targets) [] (.ok ()) := by
  unfold warnOfNone
  split
  · exact log_follows .warn _
  · exact .pure ()

theorem run_follows (l : Lookup σ) (keeps : l.sink.Keeps inv faults) {input : String}
    {paths : List String} (names : l.Names input (.ok paths)) :
    Traced.Follows inv faults (l.run input)
      (l.resolveScript input ++
        ((l.reached paths).flatMap l.targetScript ++ closing input (l.verdict paths)))
      (l.verdict paths) := by
  obtain ⟨ended, resolved, same⟩ :
      ∃ ended, Traced.Follows inv faults (l.resolve input) (l.resolveScript input) ended ∧ _ :=
    l.resolve_follows keeps names
  cases ended with
  | error failure => cases same
  | ok targets =>
      obtain rfl : targets.toList = paths := Except.ok.inj same
      have fetched := l.fetchAll_follows keeps targets.toList (l.stripFragment_of_names names)
      unfold run
      apply resolved.bind
      apply (log_follows .debug _).bind_silent
      apply (warnOfNone_follows input targets).bind_silent
      cases verdict : l.verdict targets.toList with
      | error failure =>
          rw [verdict] at fetched
          rw [closing, List.append_nil]
          exact fetched.bind_error
      | ok _ =>
          rw [verdict] at fetched
          exact fetched.bind (note_follows l keeps _)

/-- An argument that does not resolve ends the run at once. -/
theorem run_follows_unresolved (l : Lookup σ) (keeps : l.sink.Keeps inv faults) {input : String}
    {failure : Failure} (names : l.Names input (.error failure)) :
    Traced.Follows inv faults (l.run input) (l.resolveScript input) (.error failure) := by
  obtain ⟨ended, resolved, same⟩ :
      ∃ ended, Traced.Follows inv faults (l.resolve input) (l.resolveScript input) ended ∧ _ :=
    l.resolve_follows keeps names
  cases ended with
  | ok targets => cases same
  | error failure' =>
      obtain rfl : failure' = failure := Except.error.inj same
      exact resolved.bind_error

theorem reached_part (l : Lookup σ) (paths : List String) : l.reached paths <+: paths := by
  induction paths with
  | nil => exact List.prefix_rfl
  | cons path rest ih =>
      rw [reached]
      cases l.answer path with
      | ok r => exact List.cons_prefix_cons.mpr ⟨rfl, ih⟩
      | error failure => exact List.cons_prefix_cons.mpr ⟨rfl, List.nil_prefix⟩

/-- Whatever the sink does, a run asks for its report, if it is of one, and then for targets, none of
them after one without a report. -/
theorem fetches_run_part (l : Lookup σ) (input : String) (s : σ) :
    ∃ targets : List String,
      (∀ path ∈ targets, ∃ paths, l.Names input (.ok paths) ∧ path ∈ l.reached paths) ∧
      fetches (l.run input s).trace <+:
        fetches (l.resolveScript input) ++ targets.map fun path => (path, .attributes) := by
  obtain ⟨result, names⟩ := l.exists_names input
  rw [← fetches_steps]
  cases result with
  | error failure =>
      have played := (l.run_follows_unresolved l.sink.keeps_trivial names).steps_part (s := s)
        trivial
      refine ⟨[], List.forall_mem_nil _, ?_⟩
      rw [List.map_nil, List.append_nil]
      exact played.filterMap Event.fetch?
  | ok paths =>
      have played := (l.run_follows l.sink.keeps_trivial names).steps_part (s := s) trivial
      refine ⟨l.reached paths, fun path come => ⟨paths, names, come⟩, ?_⟩
      rw [← l.fetches_targets, ← List.append_nil (fetches (List.flatMap _ _)),
        ← fetches_closing input (l.verdict paths), ← fetches_append, ← fetches_append]
      exact played.filterMap Event.fetch?

end Lookup
end SensorThresholds
