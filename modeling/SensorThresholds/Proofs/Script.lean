import SensorThresholds.Proofs.Trace

/-!
The parts of a lookup as scripts. Each part plays a list of steps to its end, whatever its sink
makes of them, or breaks it off with a fault of the sink. What it plays and how it ends is decided
by the documents alone.
-/

namespace SensorThresholds
open Trace

variable {σ α β : Type}

/-- From every state with the invariant the computation plays the script, and ends with the result
in a state with the invariant; or it breaks off with one of the faults. -/
def Traced.Follows (inv : σ → Prop) (faults : OutputFault → Prop) (x : Action σ α)
    (script : List Event) (result : Except Failure α) : Prop :=
  ∀ s, inv s →
    (steps (x s).trace = script ∧ (x s).result = result ∧ inv (x s).state) ∨
      (steps (x s).trace <+: script ∧
        ∃ fault, faults fault ∧ (x s).result = .error (.output fault))

namespace Traced.Follows

variable {inv : σ → Prop} {faults : OutputFault → Prop} {x : Action σ α} {f : α → Action σ β}
  {script rest : List Event} {a : α} {failure : Failure}

theorem pure (a : α) : Follows inv faults (pure a) [] (.ok a) :=
  fun _ start => .inl ⟨rfl, rfl, start⟩

theorem fail (failure : Failure) :
    Follows inv faults (Traced.fail failure : Action σ α) [] (.error failure) :=
  fun _ start => .inl ⟨rfl, rfl, start⟩

theorem ofExcept (result : Except Failure α) :
    Follows inv faults (Traced.ofExcept result) [] result := by
  cases result with
  | ok a => exact pure a
  | error failure => exact fail failure

theorem bind {result : Except Failure β} (first : Follows inv faults x script (.ok a))
    (second : Follows inv faults (f a) rest result) :
    Follows inv faults (x >>= f) (script ++ rest) result := by
  intro s start
  rcases h : x s with ⟨trace, s', fault | b⟩
  · rw [bind_of_error h]
    rcases first s start with ⟨-, ended, -⟩ | ⟨played, fault', allowed, broken⟩
    · rw [h] at ended
      cases ended
    · rw [h] at played broken
      exact .inr ⟨played.trans (List.prefix_append script rest), fault', allowed,
        by rw [Except.error.inj broken]⟩
  · rw [bind_of_ok h]
    rcases first s start with ⟨played, ended, kept⟩ | ⟨-, fault, -, broken⟩
    · rw [h] at played ended kept
      obtain rfl : b = a := Except.ok.inj ended
      rw [steps_append, played]
      rcases second s' kept with complete | ⟨played', broken⟩
      · exact .inl ⟨by rw [complete.1], complete.2⟩
      · exact .inr ⟨(List.prefix_append_right_inj script).mpr played', broken⟩
    · rw [h] at broken
      cases broken

theorem bind_silent {result : Except Failure β} (first : Follows inv faults x [] (.ok a))
    (second : Follows inv faults (f a) rest result) : Follows inv faults (x >>= f) rest result :=
  first.bind second

theorem bind_error (first : Follows inv faults x script (.error failure)) :
    Follows inv faults (x >>= f) script (.error failure) := by
  intro s start
  rcases h : x s with ⟨trace, s', fault | b⟩
  · rw [bind_of_error h]
    rcases first s start with ⟨played, ended, kept⟩ | ⟨played, fault', allowed, broken⟩
    · rw [h] at played ended kept
      exact .inl ⟨played, by rw [Except.error.inj ended], kept⟩
    · rw [h] at played broken
      exact .inr ⟨played, fault', allowed, by rw [Except.error.inj broken]⟩
  · rcases first s start with ⟨-, ended, -⟩ | ⟨-, fault, -, broken⟩
    · rw [h] at ended
      cases ended
    · rw [h] at broken
      cases broken

/-- Naming the property in the log changes no step. -/
theorem within {result : Except Failure α} (target : String)
    (plain : Follows inv faults x script result) :
    Follows inv faults (x.relabel (Event.within target) id) script result := by
  intro s start
  rw [relabel_id_apply, steps_within]
  exact plain s start

/-- Where no fault is allowed, the script is played to its end. -/
theorem complete {result : Except Failure α}
    (plain : Follows inv (fun _ => False) x script result) {s : σ} (start : inv s) :
    steps (x s).trace = script ∧ (x s).result = result ∧ inv (x s).state := by
  rcases plain s start with done | ⟨-, -, impossible, -⟩
  · exact done
  · exact impossible.elim

theorem steps_part {result : Except Failure α} (plain : Follows inv faults x script result)
    {s : σ} (start : inv s) : steps (x s).trace <+: script := by
  rcases plain s start with ⟨played, -⟩ | ⟨played, -⟩
  · exact played ▸ List.prefix_rfl
  · exact played

end Traced.Follows

/-- A call of a sink ends well in a state with the invariant, or with one of the faults. -/
def Traced.Ends (inv : σ → Prop) (faults : OutputFault → Prop) (x : SinkAction σ Unit) : Prop :=
  ∀ s, inv s →
    ((x s).result = .ok () ∧ inv (x s).state) ∨
      ∃ fault, faults fault ∧ (x s).result = .error fault

structure Sink.Keeps (sink : Sink σ) (inv : σ → Prop) (faults : OutputFault → Prop) : Prop where
  note : ∀ line, (sink.note line).Ends inv faults
  report : ∀ r, (sink.report r).Ends inv faults

/-- From states with the invariant no call of the sink fails. -/
structure Sink.Reliable (sink : Sink σ) (inv : σ → Prop) : Prop where
  note : ∀ line s, inv s → (sink.note line s).result = .ok () ∧ inv (sink.note line s).state
  report : ∀ r s, inv s → (sink.report r s).result = .ok () ∧ inv (sink.report r s).state

theorem Sink.Reliable.keeps {sink : Sink σ} {inv : σ → Prop} (reliable : sink.Reliable inv) :
    sink.Keeps inv fun _ => False where
  note line s start := .inl (reliable.note line s start)
  report r s start := .inl (reliable.report r s start)

theorem Sink.silent_reliable : Sink.silent.Reliable fun _ => True :=
  ⟨fun _ _ _ => ⟨rfl, trivial⟩, fun _ _ _ => ⟨rfl, trivial⟩⟩

/-- Of any sink it can be said that it fails with some fault or other. -/
theorem Sink.keeps_trivial (sink : Sink σ) : sink.Keeps (fun _ => True) fun _ => True where
  note line s _ := by
    cases ended : (sink.note line s).result with
    | ok _ => exact .inl ⟨rfl, trivial⟩
    | error fault => exact .inr ⟨fault, trivial, rfl⟩
  report r s _ := by
    cases ended : (sink.report r s).result with
    | ok _ => exact .inl ⟨rfl, trivial⟩
    | error fault => exact .inr ⟨fault, trivial, rfl⟩

/-- A step that is announced and then carried out by a call of the sink. -/
theorem Traced.Ends.follows {inv : σ → Prop} {faults : OutputFault → Prop}
    {call : SinkAction σ Unit} (ends : call.Ends inv faults) (event : Event)
    (step : event.isStep = true) :
    Follows inv faults (do
      Traced.emit event
      call.relabel SinkEvent.toEvent Failure.output) [event] (.ok ()) := by
  intro s start
  have played : steps (event :: (call s).trace.map SinkEvent.toEvent) = [event] := by
    rw [← List.singleton_append, steps_append, steps_sink]
    simp [steps, step]
  rw [bind_of_ok (emit_apply event s), relabel_apply]
  rcases ends s start with ⟨ended, kept⟩ | ⟨fault, allowed, ended⟩
  · exact .inl ⟨played, by rw [ended]; rfl, kept⟩
  · refine .inr ⟨?_, fault, allowed, by rw [ended]; rfl⟩
    exact (congrArg (· <+: [event]) played).mpr List.prefix_rfl

theorem Json.isObject_of_get? {document value : Document} {key : String}
    (found : document.get? key = some value) : document.isObject = true := by
  cases document with
  | object members => rfl
  | _ => cases found

/-- The report that an attributes document makes, or the first thing wrong with it. -/
def Report.ofDocument (path : String) (document : Document) : Except Failure Report :=
  if document.isObject then do
    let attributes ← Attributes.ofDocument document
    Report.ofAttributes path attributes
  else throw (.notAnObject .attributes)

namespace Lookup

def reply (l : Lookup σ) (path : String) (resource : Resource) : Except Failure Document :=
  (l.source path resource ()).result

/-- What comes of a target: the report of its document, or why there is none. -/
def answer (l : Lookup σ) (path : String) : Except Failure Report := do
  let document ← l.reply path .attributes
  Report.ofDocument path document

def asked (l : Lookup σ) (path : String) (resource : Resource) : List Event :=
  .fetch path resource :: steps ((l.source path resource ()).trace.map SourceEvent.toEvent)

def handedOver : Except Failure Report → List Event
  | .ok r => [.report r]
  | .error _ => []

def targetNote (path : String) : String := s!"Thresholds for mp:'{path}' are below:"

def targetScript (l : Lookup σ) (path : String) : List Event :=
  [.note (targetNote path)] ++ (l.asked path .attributes ++ handedOver (l.answer path))

theorem filterMap_asked {β : Type} (l : Lookup σ) (f : Event → Option β)
    (silent : ∀ event : SourceEvent, f event.toEvent = none) (path : String)
    (resource : Resource) :
    (l.asked path resource).filterMap f = (f (.fetch path resource)).toList := by
  have nothing : (steps ((l.source path resource ()).trace.map SourceEvent.toEvent)).filterMap f =
      [] := by
    rw [List.filterMap_eq_nil_iff]
    intro event member
    obtain ⟨original, -, rfl⟩ := List.mem_map.mp (List.mem_filter.mp member).1
    exact silent original
  rw [asked, List.filterMap_cons, nothing]
  cases f (.fetch path resource) <;> rfl

theorem notes_asked (l : Lookup σ) (path : String) (resource : Resource) :
    notes (l.asked path resource) = [] :=
  filterMap_asked l _ (fun event => by cases event <;> rfl) path resource

theorem reports_asked (l : Lookup σ) (path : String) (resource : Resource) :
    reports (l.asked path resource) = [] :=
  filterMap_asked l _ (fun event => by cases event <;> rfl) path resource

theorem fetches_asked (l : Lookup σ) (path : String) (resource : Resource) :
    fetches (l.asked path resource) = [(path, resource)] :=
  filterMap_asked l _ (fun event => by cases event <;> rfl) path resource

theorem notes_targetScript (l : Lookup σ) (path : String) :
    notes (l.targetScript path) = [targetNote path] := by
  rw [targetScript, notes_append, notes_append, notes_asked]
  cases l.answer path <;> rfl

theorem reports_targetScript (l : Lookup σ) (path : String) :
    reports (l.targetScript path) = (l.answer path).toOption.toList := by
  rw [targetScript, reports_append, reports_append, reports_asked]
  cases l.answer path <;> rfl

theorem fetches_targetScript (l : Lookup σ) (path : String) :
    fetches (l.targetScript path) = [(path, .attributes)] := by
  rw [targetScript, fetches_append, fetches_append, fetches_asked]
  cases l.answer path <;> rfl

variable {inv : σ → Prop} {faults : OutputFault → Prop}

theorem log_follows (level : Level) (text : String) :
    Traced.Follows inv faults (log level text) [] (.ok ()) :=
  fun _ start => .inl ⟨rfl, rfl, start⟩

theorem note_follows (l : Lookup σ) (keeps : l.sink.Keeps inv faults) (line : String) :
    Traced.Follows inv faults (l.note line) [.note line] (.ok ()) :=
  (keeps.note line).follows (.note line) rfl

theorem report_follows (l : Lookup σ) (keeps : l.sink.Keeps inv faults) (r : Report) :
    Traced.Follows inv faults (l.report r) [.report r] (.ok ()) :=
  (keeps.report r).follows (.report r) rfl

theorem fetch_apply (l : Lookup σ) (path : String) (resource : Resource) (s : σ) :
    l.fetch path resource s =
      ⟨.fetch path resource :: (l.source path resource ()).trace.map SourceEvent.toEvent, s,
        l.reply path resource⟩ := by
  rw [fetch, Traced.bind_of_ok (Traced.emit_apply _ s), Traced.relabel_id_apply]
  rfl

theorem fetch_follows (l : Lookup σ) (path : String) (resource : Resource) :
    Traced.Follows inv faults (l.fetch path resource) (l.asked path resource)
      (l.reply path resource) := by
  intro s start
  rw [fetch_apply]
  exact .inl ⟨rfl, rfl, start⟩

theorem warnOfState_follows (document : Document) :
    Traced.Follows inv faults (warnOfState document) [] (.ok ()) := by
  unfold warnOfState
  cases unknownStateWarning? document with
  | some warning => exact log_follows .warn warning
  | none => exact .pure ()

theorem reportOf_follows (path : String) (document : Document) :
    Traced.Follows inv faults (reportOf path document) [] (Report.ofDocument path document) := by
  unfold reportOf Report.ofDocument
  cases document.isObject with
  | false => exact .fail _
  | true =>
      apply (warnOfState_follows document).bind_silent
      cases read : Attributes.ofDocument document with
      | error failure => exact Traced.Follows.bind_error (.ofExcept (.error failure))
      | ok attributes =>
          apply (Traced.Follows.ofExcept (.ok attributes)).bind_silent
          exact (log_follows .debug _).bind_silent (.ofExcept _)

theorem answer_of_error (l : Lookup σ) (path : String) {failure : Failure}
    (replied : l.reply path .attributes = .error failure) : l.answer path = .error failure := by
  rw [answer, replied]
  rfl

theorem answer_of_ok (l : Lookup σ) (path : String) {document : Document}
    (replied : l.reply path .attributes = .ok document) :
    l.answer path = Report.ofDocument path document := by
  rw [answer, replied]
  rfl

theorem answer_follows (l : Lookup σ) (path : String) :
    Traced.Follows inv faults (l.fetch path .attributes >>= reportOf path)
      (l.asked path .attributes) (l.answer path) := by
  have fetched : Traced.Follows inv faults (l.fetch path .attributes) _ _ :=
    fetch_follows l path .attributes
  cases replied : l.reply path .attributes with
  | error failure =>
      rw [replied] at fetched
      rw [answer_of_error l path replied]
      exact fetched.bind_error
  | ok document =>
      rw [replied] at fetched
      rw [answer_of_ok l path replied, ← List.append_nil (l.asked path .attributes)]
      exact fetched.bind (reportOf_follows path document)

theorem fetchAndReport_eq (l : Lookup σ) (path : String) (plain : stripFragment path = path) :
    l.fetchAndReport path = Traced.relabel (Event.within path) id (do
      l.note (targetNote path)
      let r ← l.fetch path .attributes >>= reportOf path
      l.report r
      return r) := by
  unfold fetchAndReport
  rw [plain]
  refine congrArg (Traced.relabel (Event.within path) id) (bind_congr fun _ => ?_)
  exact (bind_assoc _ _ _).symm

/-- One target: its note, the request for its attributes, and its report if there is one. -/
theorem fetchAndReport_follows (l : Lookup σ) (keeps : l.sink.Keeps inv faults) {path : String}
    (plain : stripFragment path = path) :
    Traced.Follows inv faults (l.fetchAndReport path) (l.targetScript path) (l.answer path) := by
  have answered : Traced.Follows inv faults (l.fetch path .attributes >>= reportOf path) _ _ :=
    answer_follows l path
  rw [fetchAndReport_eq l path plain, targetScript]
  apply Traced.Follows.within
  apply (note_follows l keeps _).bind
  cases ended : l.answer path with
  | error failure =>
      rw [ended] at answered
      rw [handedOver, List.append_nil]
      exact answered.bind_error
  | ok r =>
      rw [ended] at answered
      apply answered.bind
      exact (report_follows l keeps r).bind (.pure r)

end Lookup
end SensorThresholds
