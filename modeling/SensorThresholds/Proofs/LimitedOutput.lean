import SensorThresholds.Proofs.FailureKinds
import SensorThresholds.Proofs.Replay

/-!
Runs on outputs with limits, next to the same runs on an output without. Limits that are met leave
no mark. Otherwise a run breaks off at the first write or flush that is refused, with whatever bytes
of it are still taken, and fails.
-/

namespace SensorThresholds
open Trace

namespace Writer

/-- A trace has more bytes or flushes than the output takes. -/
def Exceeded (w : Writer) (trace : List Event) : Prop :=
  (∃ room, w.bytesLeft = some room ∧ room < (written trace).length) ∨
    ∃ times, w.flushesLeft = some times ∧ times < flushes trace

/-- How a trace breaks off at an event that is refused: what is seen up to the refusal, and the
fault that comes of it. -/
inductive BreaksAt (w : Writer) (before : List Event) :
    Event → List Event → OutputFault → Prop where
  | write {bytes taken : List UInt8} (part : taken <+: bytes) (lost : taken.length < bytes.length)
      (full : w.bytesLeft = some (written before ++ taken).length) :
      BreaksAt w before (.write bytes)
        (before ++ if taken.isEmpty then [] else [.write taken]) w.whenFull
  | flush (full : w.flushesLeft = some (flushes before)) :
      BreaksAt w before .flush before .flushFailed

/-- What an output takes after an event. -/
def spend (w : Writer) (event : Event) : Writer :=
  { w with
    bytesLeft := w.bytesLeft.map (· - (written [event]).length)
    flushesLeft := w.flushesLeft.map (· - flushes [event]) }

theorem lt_add_iff (limit : Option Nat) (now later : Nat) :
    (∃ room, limit = some room ∧ room < now + later) ↔
      (∃ room, limit = some room ∧ room < now) ∨
        ∃ room, limit.map (· - now) = some room ∧ room < later := by
  cases limit with
  | none => simp
  | some room =>
      simp only [Option.map_some, Option.some.injEq, exists_eq_left']
      omega

theorem exceeded_cons (w : Writer) (event : Event) (rest : List Event) :
    w.Exceeded (event :: rest) ↔ w.Exceeded [event] ∨ (w.spend event).Exceeded rest := by
  have bytes : (written (event :: rest)).length =
      (written [event]).length + (written rest).length := by
    rw [← List.singleton_append, written_append, List.length_append]
  have times : flushes (event :: rest) = flushes [event] + flushes rest := by
    rw [← List.singleton_append, flushes_append]
  rw [Exceeded, bytes, times, lt_add_iff, lt_add_iff]
  exact or_or_or_comm

theorem written_write (bytes : List UInt8) : written [.write bytes] = bytes := by
  simp [written]

theorem spend_write (w : Writer) (bytes : List UInt8) :
    w.spend (.write bytes) = { w with bytesLeft := w.bytesLeft.map (· - bytes.length) } := by
  simp [spend, written_write, flushes, Event.isFlush]

theorem spend_flush (w : Writer) :
    w.spend .flush = { w with flushesLeft := w.flushesLeft.map (· - 1) } := by
  simp [spend, written, flushes, Event.isFlush]

theorem spend_silent (w : Writer) {event : Event} (nothing : written [event] = [])
    (never : flushes [event] = 0) : w.spend event = w := by
  simp [spend, nothing, never]

theorem taken_of_fits {w : Writer} {bytes : List UInt8}
    (fits : ¬ w.Exceeded [.write bytes]) : w.taken bytes = bytes := by
  rw [Exceeded, written_write] at fits
  cases left : w.bytesLeft with
  | none => simp only [taken, left]
  | some room =>
      have enough : bytes.length ≤ room :=
        Nat.le_of_not_lt fun less => fits (.inl ⟨room, left, less⟩)
      simp only [taken, left, List.take_of_length_le enough]

theorem replay_fits {w : Writer} {event : Event} (full : event ≠ .write [])
    (fits : ¬ w.Exceeded [event]) : event.replay w = ⟨[event], w.spend event, .ok ()⟩ := by
  cases event with
  | write bytes =>
      have nonempty : bytes.isEmpty = false := by
        cases bytes with
        | nil => exact absurd rfl full
        | cons byte rest => rfl
      rw [Event.replay, Traced.relabel_apply, put_apply, taken_of_fits fits, nonempty, spend_write,
        if_neg (Nat.lt_irrefl _)]
      rfl
  | flush =>
      rw [spend_flush]
      rcases w with ⟨bytesLeft, _ | _ | times, fault⟩
      · rfl
      · exact absurd (.inr ⟨0, rfl, by simp [flushes, Event.isFlush]⟩) fits
      · rfl
  | _ =>
      rw [spend_silent w rfl rfl]
      rfl

theorem replay_breaks {w : Writer} {event : Event} (exceeded : w.Exceeded [event]) :
    ∃ part fault s, event.replay w = ⟨part, s, .error (.output fault)⟩ ∧
      w.BreaksAt [] event part fault := by
  rcases exceeded with ⟨room, left, less⟩ | ⟨times, left, less⟩
  · cases event with
    | write bytes =>
        rw [written_write] at less
        have taken : w.taken bytes = bytes.take room := by simp only [taken, left]
        have length : (bytes.take room).length = room := List.length_take_of_le (Nat.le_of_lt less)
        refine ⟨_, w.whenFull, ((Event.write bytes).replay w).state, ?_,
          .write (List.take_prefix room bytes) ?_ ?_⟩
        · rw [Event.replay, Traced.relabel_apply, put_apply, taken, length, if_pos less]
          cases (bytes.take room).isEmpty <;> rfl
        · rw [length]
          exact less
        · rw [left, written, List.flatMap_nil, List.nil_append, length]
    | _ => exact absurd less (Nat.not_lt_zero _)
  · cases event with
    | flush =>
        obtain rfl : times = 0 := Nat.lt_one_iff.mp less
        refine ⟨[], .flushFailed, w, ?_, .flush left⟩
        rw [Event.replay, Traced.relabel_apply, flush, left]
        rfl
    | _ => exact absurd less (Nat.not_lt_zero _)

theorem BreaksAt.cons {w : Writer} {event refused : Event} {before part : List Event}
    {fault : OutputFault} (fits : ¬ w.Exceeded [event])
    (breaks : (w.spend event).BreaksAt before refused part fault) :
    w.BreaksAt (event :: before) refused (event :: part) fault := by
  have apart (trace : List Event) : event :: trace = [event] ++ trace := rfl
  cases breaks with
  | @write bytes taken part lost full =>
      obtain ⟨room, left, same⟩ := Option.map_eq_some_iff.mp full
      have enough : (written [event]).length ≤ room :=
        Nat.le_of_not_lt fun less => fits (.inl ⟨room, left, less⟩)
      rw [← List.cons_append]
      apply BreaksAt.write part lost
      rw [left, apart, written_append, List.append_assoc, List.length_append, ← same,
        Nat.add_sub_of_le enough]
  | flush full =>
      obtain ⟨times, left, same⟩ := Option.map_eq_some_iff.mp full
      have enough : flushes [event] ≤ times :=
        Nat.le_of_not_lt fun less => fits (.inr ⟨times, left, less⟩)
      apply BreaksAt.flush
      rw [left, apart, flushes_append, ← same, Nat.add_sub_of_le enough]

theorem replay_all {w : Writer} {trace : List Event} (full : .write [] ∉ trace)
    (fits : ¬ w.Exceeded trace) : ∃ s, replay trace w = ⟨trace, s, .ok ()⟩ := by
  induction trace generalizing w with
  | nil => exact ⟨w, rfl⟩
  | cons event rest ih =>
      rw [exceeded_cons, not_or] at fits
      have head : event ≠ .write [] := fun same => full (same ▸ List.mem_cons_self)
      obtain ⟨s, played⟩ := ih (fun member => full (List.mem_cons_of_mem _ member)) fits.2
      refine ⟨s, ?_⟩
      rw [replay, Traced.bind_of_ok (replay_fits head fits.1), played]
      rfl

theorem replay_part {w : Writer} {trace : List Event} (full : .write [] ∉ trace)
    (exceeded : w.Exceeded trace) :
    ∃ before refused after part fault s, trace = before ++ refused :: after ∧
      replay trace w = ⟨part, s, .error (.output fault)⟩ ∧
      w.BreaksAt before refused part fault := by
  induction trace generalizing w with
  | nil =>
      rcases exceeded with ⟨room, -, less⟩ | ⟨times, -, less⟩
      · exact absurd less (Nat.not_lt_zero _)
      · exact absurd less (Nat.not_lt_zero _)
  | cons event rest ih =>
      -- Either this event is the one refused, or the refusal comes later.
      by_cases fits : w.Exceeded [event]
      · obtain ⟨part, fault, s, played, breaks⟩ := replay_breaks fits
        refine ⟨[], event, rest, part, fault, s, rfl, ?_, breaks⟩
        rw [replay, Traced.bind_of_error played]
      · have later : (w.spend event).Exceeded rest := by
          rw [exceeded_cons] at exceeded
          exact exceeded.resolve_left fits
        have head : event ≠ .write [] := fun same => full (same ▸ List.mem_cons_self)
        obtain ⟨before, refused, after, part, fault, s, parts, played, breaks⟩ :=
          ih (fun member => full (List.mem_cons_of_mem _ member)) later
        refine ⟨event :: before, refused, after, event :: part, fault, s, ?_, ?_,
          breaks.cons fits⟩
        · rw [parts, List.cons_append]
        · rw [replay, Traced.bind_of_ok (replay_fits head fits), played]
          rfl

theorem not_exceeded_unlimited (trace : List Event) : ¬ unlimited.Exceeded trace := by
  rintro (⟨room, none, -⟩ | ⟨times, none, -⟩)
  · cases none
  · cases none

theorem BreaksAt.written_part {w : Writer} {before part : List Event} {refused : Event}
    {fault : OutputFault} (breaks : w.BreaksAt before refused part fault) (after : List Event) :
    written part <+: written (before ++ refused :: after) := by
  rw [written_append]
  cases breaks with
  | @write bytes taken part lost full =>
      have cut : written (if taken.isEmpty then [] else [.write taken]) = taken := by
        cases taken with
        | nil => rfl
        | cons byte rest => exact written_write _
      rw [written_append, cut, List.prefix_append_right_inj, ← List.singleton_append,
        written_append, written_write]
      exact part.trans (List.prefix_append bytes _)
  | flush full => exact List.prefix_append _ _

theorem BreaksAt.asked {w : Writer} {before part : List Event} {refused : Event}
    {fault : OutputFault} (breaks : w.BreaksAt before refused part fault) :
    fetches part = fetches before ∧ requests part = requests before := by
  cases breaks with
  | @write bytes taken part lost full =>
      rw [fetches_append, requests_append]
      cases taken.isEmpty <;> exact ⟨List.append_nil _, List.append_nil _⟩
  | flush full => exact ⟨rfl, rfl⟩

end Writer

namespace Traced.Replays

variable {α : Type} {x : Action Writer α} {trace : List Event} {result : Except Failure α}
  {w : Writer}

/-- Limits that are met leave no mark. -/
theorem fits (plain : x.Replays trace result) (fits : ¬ w.Exceeded trace) :
    (x w).trace = trace ∧ (x w).result = result := by
  obtain ⟨full, rfl⟩ := plain
  obtain ⟨s, played⟩ := Writer.replay_all full fits
  rw [bind_of_ok played, ofExcept_apply, List.append_nil]
  exact ⟨rfl, rfl⟩

/-- The first refusal is the end. -/
theorem breaks (plain : x.Replays trace result) (exceeded : w.Exceeded trace) :
    ∃ before refused after fault, trace = before ++ refused :: after ∧
      w.BreaksAt before refused (x w).trace fault ∧ (x w).result = .error (.output fault) := by
  obtain ⟨full, rfl⟩ := plain
  obtain ⟨before, refused, after, part, fault, s, parts, played, breaks⟩ :=
    Writer.replay_part full exceeded
  rw [bind_of_error played]
  exact ⟨before, refused, after, fault, parts, breaks, rfl⟩

end Traced.Replays

/-- The call neither fails on an output without limits nor sets it one. -/
def Steady (call : SinkAction Writer Unit) : Prop :=
  (call .unlimited).result = .ok () ∧ (call .unlimited).state = .unlimited

namespace Steady

theorem bind {first second : SinkAction Writer Unit} (steady : Steady first)
    (next : Steady second) : Steady (first >>= fun _ => second) := by
  obtain ⟨ended, kept⟩ := steady
  rcases h : first .unlimited with ⟨trace, w, result⟩
  rw [h] at ended kept
  subst ended kept
  rw [Steady, Traced.bind_of_ok h]
  exact next

theorem putLine (line : String) : Steady (Writer.putLine line) := by
  constructor
  · exact if_neg (Nat.lt_irrefl _)
  · rfl

theorem putLines (lines : List String) : Steady (putLines lines) := by
  induction lines with
  | nil => exact ⟨rfl, rfl⟩
  | cons line rest ih => exact (putLine line).bind ih

end Steady

theorem OutputFormat.sink_reliable (format : OutputFormat) :
    format.sink.Reliable (· = .unlimited) := by
  have flushed : Steady Writer.flush := ⟨rfl, rfl⟩
  have note (line : String) : Steady (format.sink.note line) := by
    cases format with
    | text => exact (Steady.putLine line).bind flushed
    | json => exact ⟨rfl, rfl⟩
  have report (r : Report) : Steady (format.sink.report r) := by
    cases format with
    | text => exact (Steady.putLines r.lines).bind flushed
    | json => exact (Steady.putLine r.json).bind flushed
  constructor
  · rintro line _ rfl
    exact note line
  · rintro r _ rfl
    exact report r

/-- On an output without limits a run fails with no fault of the output, unless its source does. -/
theorem Lookup.run_unlimited {source : Source} (never : source.NeverOutput)
    (reportBase input : String) (format : OutputFormat) (fault : OutputFault) :
    (Lookup.run ⟨source, reportBase, format.sink⟩ input .unlimited).result ≠
      .error (.output fault) := by
  intro failed
  rcases @run_error _ (· = .unlimited) _ format.sink_reliable _ _ rfl _ failed with
    kind | ⟨path, resource, replied⟩
  · cases kind
  · exact never path resource () _ replied rfl

/-- What is seen of a run on a limited output is part of what is seen of it on one without limits.
Unless all of it is, the run fails, and the write or flush that was refused was its last act. -/
theorem limited_run (source : Source) (reportBase input : String) (format : OutputFormat)
    (w : Writer) :
    let l : Lookup Writer := ⟨source, reportBase, format.sink⟩
    let whole := l.run input .unlimited
    let part := l.run input w
    written part.trace <+: written whole.trace ∧
      fetches part.trace <+: fetches whole.trace ∧
      requests part.trace <+: requests whole.trace ∧
      (¬ w.Exceeded whole.trace → part.trace = whole.trace ∧ part.result = whole.result) ∧
      (w.Exceeded whole.trace → ∃ before refused after fault,
        whole.trace = before ++ refused :: after ∧ w.BreaksAt before refused part.trace fault ∧
          part.result = .error (.output fault)) ∧
      (source.NeverOutput →
        ((∃ fault, part.result = .error (.output fault)) ↔ w.Exceeded whole.trace)) := by
  intro l whole part
  obtain ⟨trace, result, plain⟩ := l.run_replayable format.sink_replayable input
  obtain ⟨rfl, rfl⟩ : whole.trace = trace ∧ whole.result = result :=
    plain.fits (Writer.not_exceeded_unlimited trace)
  by_cases exceeded : w.Exceeded whole.trace
  · obtain ⟨before, refused, after, fault, parts, breaks, failed⟩ := plain.breaks exceeded
    refine ⟨?_, ?_, ?_, fun fits => absurd exceeded fits,
      fun _ => ⟨before, refused, after, fault, parts, breaks, failed⟩,
      fun _ => iff_of_true ⟨fault, failed⟩ exceeded⟩
    · rw [parts]
      exact breaks.written_part after
    · rw [parts, breaks.asked.1, fetches_append]
      exact List.prefix_append _ _
    · rw [parts, breaks.asked.2, requests_append]
      exact List.prefix_append _ _
  · obtain ⟨same, returned⟩ : part.trace = whole.trace ∧ part.result = whole.result :=
      plain.fits exceeded
    refine ⟨?_, ?_, ?_, fun _ => ⟨same, returned⟩, fun contrary => absurd contrary exceeded, ?_⟩
    · exact same ▸ List.prefix_rfl
    · exact same ▸ List.prefix_rfl
    · exact same ▸ List.prefix_rfl
    · intro never
      refine iff_of_false ?_ exceeded
      rintro ⟨fault, failed⟩
      exact Lookup.run_unlimited never reportBase input format fault (returned.symm.trans failed)

/-- Before a peer without pages all that is written is one line of 25 bytes. On an output with room
for five a run over HTTP fails for want of room, and on one with room for all of them a run over a
table does not. -/
theorem limited_run_one_line :
    let c : Client := ⟨"http", "[::1]", "root", "calvin"⟩
    let overHttp : Lookup Writer := ⟨c.source ⟨"[::1]", 80, []⟩, "/reports/", .text⟩
    let inMemory : Lookup Writer := ⟨.ofTable "https://idrac" [], "/reports/", .text⟩
    let small : Writer := ⟨some 5, none, .noSpace⟩
    let ample : Writer := ⟨some 25, none, .noSpace⟩
    (∃ fault, (overHttp.run "Power" small).result = .error (.output fault)) ∧
      ¬ ∃ fault, (inMemory.run "Power" ample).result = .error (.output fault) := by
  intro c overHttp inMemory small ample
  obtain ⟨-, -, -, -, -, client⟩ :=
    limited_run (c.source ⟨"[::1]", 80, []⟩) "/reports/" "Power" .text small
  obtain ⟨-, -, -, -, -, table⟩ :=
    limited_run (.ofTable "https://idrac" []) "/reports/" "Power" .text ample
  constructor
  · apply (client (c.source_neverOutput .plain _)).mpr
    exact .inl ⟨5, rfl, by decide +kernel⟩
  · apply (not_congr (table (Source.ofTable_neverOutput "https://idrac" []))).mpr
    rintro (⟨room, known, beyond⟩ | ⟨times, known, -⟩)
    · obtain rfl : 25 = room := Option.some.inj known
      revert beyond
      decide +kernel
    · cases known

end SensorThresholds
