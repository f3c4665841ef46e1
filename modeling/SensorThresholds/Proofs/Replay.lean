import SensorThresholds.Program
import SensorThresholds.Proofs.Related
import SensorThresholds.Proofs.Script

/-!
What a lookup depends on. Until its output fails it goes on in the same way whatever the output
takes: what it does to one output, done again, is what it does to any other.
-/

namespace SensorThresholds
open Trace

variable {α β : Type}

/-- As many of the bytes as fit. -/
def Writer.taken (w : Writer) (bytes : List UInt8) : List UInt8 :=
  match w.bytesLeft with
  | none => bytes
  | some room => bytes.take room

theorem Writer.put_apply (w : Writer) (bytes : List UInt8) :
    put bytes w =
      ⟨if (w.taken bytes).isEmpty then [] else [.write (w.taken bytes)],
        { w with bytesLeft := w.bytesLeft.map (· - (w.taken bytes).length) },
        if (w.taken bytes).length < bytes.length then .error w.whenFull else .ok ()⟩ := rfl

namespace Writer

theorem put_of_ok {w : Writer} {bytes : List UInt8} (nonempty : bytes ≠ [])
    (ended : (put bytes w).result = .ok ()) : (put bytes w).trace = [.write bytes] := by
  have all : w.taken bytes = bytes := by
    rw [put_apply] at ended
    by_cases lost : (w.taken bytes).length < bytes.length
    · rw [if_pos lost] at ended
      cases ended
    · unfold taken at lost ⊢
      split
      · rfl
      · next left =>
          simp only [left, List.length_take] at lost
          exact List.take_of_length_le (by omega)
  rw [put_apply, all, if_neg (by simpa using nonempty)]

theorem flush_of_ok {w : Writer} (ended : (flush w).result = .ok ()) :
    (flush w).trace = [.flush] := by
  unfold flush at ended ⊢
  split
  · next full =>
      simp only [full] at ended
      cases ended
  · rfl

end Writer

/-- Does again what an event shows. -/
def Event.replay : Event → Action Writer Unit
  | .write bytes => (Writer.put bytes).relabel SinkEvent.toEvent Failure.output
  | .flush => Writer.flush.relabel SinkEvent.toEvent Failure.output
  | event => Traced.emit event

theorem Event.replay_within (target : String) (event : Event) :
    (event.within target).replay = event.replay.relabel (Event.within target) id := by
  cases event with
  | write bytes =>
      funext w
      simp only [Event.within, Event.replay, Traced.relabel_apply, Writer.put_apply]
      congr 1
      · cases (w.taken bytes).isEmpty <;> rfl
      · split <;> rfl
  | flush =>
      funext w
      simp only [Event.within, Event.replay, Traced.relabel_apply, Writer.flush]
      split <;> rfl
  | _ => rfl

def Trace.replay : List Event → Action Writer Unit
  | [] => pure ()
  | event :: rest => do
    event.replay
    replay rest

namespace Trace

theorem replay_append (first second : List Event) :
    replay (first ++ second) = (do
      replay first
      replay second) := by
  induction first with
  | nil => rw [List.nil_append, replay, pure_bind]
  | cons event rest ih => rw [List.cons_append, replay, ih, replay, bind_assoc]

theorem replay_singleton (event : Event) : replay [event] = event.replay := by
  rw [replay, replay]
  exact bind_pure _

theorem replay_within (target : String) (trace : List Event) :
    replay (trace.map (Event.within target)) =
      (replay trace).relabel (Event.within target) id := by
  induction trace with
  | nil => rfl
  | cons event rest ih =>
      rw [List.map_cons, replay, replay, Traced.relabel_bind, ih, Event.replay_within]

/-- What a source does leaves the output alone. -/
theorem replay_source (trace : List SourceEvent) (w : Writer) :
    replay (trace.map SourceEvent.toEvent) w = ⟨trace.map SourceEvent.toEvent, w, .ok ()⟩ := by
  induction trace with
  | nil => rfl
  | cons event rest ih =>
      have alone : event.toEvent.replay w = ⟨[event.toEvent], w, .ok ()⟩ := by
        cases event <;> rfl
      rw [List.map_cons, replay, Traced.bind_of_ok alone, ih]
      rfl

end Trace

/-- The computation does to any output what its trace shows, and then ends with its result. An empty
write shows nothing. -/
def Traced.Replays (x : Action Writer α) (trace : List Event) (result : Except Failure α) : Prop :=
  .write [] ∉ trace ∧ x = (do
    replay trace
    Traced.ofExcept result)

namespace Traced.Replays

variable {x : Action Writer α} {f : α → Action Writer β} {trace rest : List Event}

theorem ofExcept (result : Except Failure α) :
    Replays (Traced.ofExcept result) [] result := ⟨List.not_mem_nil, (pure_bind _ _).symm⟩

theorem pure (a : α) : Replays (pure a : Action Writer α) [] (.ok a) := ofExcept (.ok a)

theorem fail (failure : Failure) :
    Replays (Traced.fail failure : Action Writer α) [] (.error failure) := ofExcept (.error failure)

theorem event {event : Event} (full : event ≠ .write []) : Replays event.replay [event] (.ok ()) :=
  ⟨fun member => full (List.mem_singleton.mp member).symm, by
    rw [replay_singleton]
    exact (bind_pure _).symm⟩

theorem bind {a : α} {result : Except Failure β} (first : Replays x trace (.ok a))
    (second : Replays (f a) rest result) : Replays (x >>= f) (trace ++ rest) result := by
  obtain ⟨full, rfl⟩ := first
  obtain ⟨full', again⟩ := second
  refine ⟨by simp [full, full'], ?_⟩
  -- On any output the replay of the first part ends where the second one starts.
  rw [bind_assoc, replay_append, bind_assoc, ← again]
  exact bind_congr fun _ => pure_bind a f

theorem bind_error {failure : Failure} (first : Replays x trace (.error failure)) :
    Replays (x >>= f) trace (.error failure) := by
  obtain ⟨full, rfl⟩ := first
  refine ⟨full, ?_⟩
  rw [bind_assoc]
  exact bind_congr fun _ => rfl

theorem within {result : Except Failure α} (target : String) (plain : Replays x trace result) :
    Replays (x.relabel (Event.within target) id) (trace.map (Event.within target)) result := by
  obtain ⟨full, rfl⟩ := plain
  constructor
  · intro member
    obtain ⟨original, inside, same⟩ := List.mem_map.mp member
    cases original with
    | write bytes => exact full (same ▸ inside)
    | _ => cases same
  · rw [relabel_bind, replay_within]
    cases result <;> rfl

end Traced.Replays

def Traced.Replayable (x : Action Writer α) : Prop := ∃ trace result, x.Replays trace result

namespace Traced.Replayable

variable {x : Action Writer α} {f : α → Action Writer β}

theorem pure (a : α) : Replayable (pure a : Action Writer α) := ⟨[], _, .pure a⟩

theorem fail (failure : Failure) : Replayable (Traced.fail failure : Action Writer α) :=
  ⟨[], _, .fail failure⟩

theorem event {event : Event} (full : event ≠ .write []) : Replayable event.replay :=
  ⟨[event], _, .event full⟩

theorem bind (first : Replayable x) (second : ∀ a, Replayable (f a)) : Replayable (x >>= f) := by
  obtain ⟨trace, failure | a, first⟩ := first
  · exact ⟨trace, _, first.bind_error⟩
  · obtain ⟨rest, result, second⟩ := second a
    exact ⟨trace ++ rest, result, first.bind second⟩

theorem within (target : String) (plain : Replayable x) :
    Replayable (x.relabel (Event.within target) id) := by
  obtain ⟨trace, result, plain⟩ := plain
  exact ⟨trace.map (Event.within target), result, plain.within target⟩

end Traced.Replayable

theorem putLine_replayable (line : String) :
    ((Writer.putLine line).relabel SinkEvent.toEvent Failure.output).Replayable := by
  apply @Traced.Replayable.event (.write (Utf8.encode (line ++ "\n")))
  intro empty
  exact Utf8.encode_line_ne_nil line (Event.write.inj empty)

theorem flush_replayable : (Writer.flush.relabel SinkEvent.toEvent Failure.output).Replayable :=
  @Traced.Replayable.event .flush (by simp)

theorem putLines_replayable (lines : List String) :
    ((putLines lines).relabel SinkEvent.toEvent Failure.output).Replayable := by
  induction lines with
  | nil => exact .pure ()
  | cons line rest ih =>
      rw [putLines, Traced.relabel_bind]
      exact (putLine_replayable line).bind fun _ => ih

/-- The calls of the sink do the same whatever its output takes. -/
structure Sink.Replayable (sink : Sink Writer) : Prop where
  note : ∀ line, ((sink.note line).relabel SinkEvent.toEvent Failure.output).Replayable
  report : ∀ r, ((sink.report r).relabel SinkEvent.toEvent Failure.output).Replayable

theorem OutputFormat.sink_replayable (format : OutputFormat) : format.sink.Replayable := by
  constructor
  · intro line
    cases format with
    | text =>
        exact (Traced.relabel_bind ..).symm ▸
          (putLine_replayable line).bind fun _ => flush_replayable
    | json => exact @Traced.Replayable.event (.log (.plain .sink .debug line)) (by simp)
  · intro r
    cases format with
    | text =>
        exact (Traced.relabel_bind ..).symm ▸
          (putLines_replayable r.lines).bind fun _ => flush_replayable
    | json =>
        exact (Traced.relabel_bind ..).symm ▸
          (putLine_replayable r.json).bind fun _ => flush_replayable

namespace Lookup

theorem log_replayable (level : Level) (text : String) :
    Traced.Replayable (log level text : Action Writer Unit) :=
  @Traced.Replayable.event (.log _) (by simp)

theorem note_replayable (l : Lookup Writer) (sink : l.sink.Replayable) (line : String) :
    (l.note line).Replayable :=
  (@Traced.Replayable.event (.note line) (by simp)).bind fun _ => sink.note line

theorem report_replayable (l : Lookup Writer) (sink : l.sink.Replayable) (r : Report) :
    (l.report r).Replayable :=
  (@Traced.Replayable.event (.report r) (by simp)).bind fun _ => sink.report r

theorem fetch_replayable (l : Lookup Writer) (path : String) (resource : Resource) :
    (l.fetch path resource).Replayable := by
  refine ⟨.fetch path resource :: (l.source path resource ()).trace.map SourceEvent.toEvent,
    l.reply path resource, ?_, ?_⟩
  · intro member
    rcases List.mem_cons.mp member with same | member
    · cases same
    · obtain ⟨original, -, same⟩ := List.mem_map.mp member
      cases original <;> cases same
  · funext w
    have asked : (Event.fetch path resource).replay w = ⟨[.fetch path resource], w, .ok ()⟩ := rfl
    rw [fetch_apply, replay, bind_assoc, Traced.bind_of_ok asked,
      Traced.bind_of_ok (replay_source _ w), Traced.ofExcept_apply, List.append_nil]
    rfl

theorem replayable_related (l : Lookup Writer) (sink : l.sink.Replayable) :
    l.Related l fun x _ => x.Replayable where
  reportBase := rfl
  pure := .pure
  fail failure _ := .fail failure
  bind first second := first.bind second
  within target _ _ plain := plain.within target
  log := log_replayable
  note := note_replayable l sink
  report := report_replayable l sink
  fetch := fetch_replayable l

theorem run_replayable (l : Lookup Writer) (sink : l.sink.Replayable) (input : String) :
    (l.run input).Replayable := (replayable_related l sink).run input

end Lookup
end SensorThresholds
