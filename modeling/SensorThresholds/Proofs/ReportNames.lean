import SensorThresholds.Settings
import SensorThresholds.Proofs.OutputFormats
import SensorThresholds.Proofs.Run

/-!
A report named by its id and by its path. Where the path of the collection holds the part by which
paths are told from ids, the two names are looked up alike, and only what quotes the argument tells
them apart. Elsewhere the path is taken for one more id.
-/

namespace SensorThresholds
open Trace

variable {σ α β : Type}

/-- Events that are the same but for the argument that they quote. -/
inductive Event.Requoted (old new : String) : Event → Event → Prop where
  | same (event : Event) : Requoted old new event event
  | announced :
      Requoted old new (.note s!"For metric report: {old}") (.note s!"For metric report: {new}")
  | counted (n : Nat) :
      Requoted old new
        (.log (.plain .lookup .debug s!"Resolved {n} metric properties from '{old}'"))
        (.log (.plain .lookup .debug s!"Resolved {n} metric properties from '{new}'"))
  | none :
      Requoted old new
        (.log (.plain .lookup .warn s!"Metric report '{old}' lists no metric properties"))
        (.log (.plain .lookup .warn s!"Metric report '{new}' lists no metric properties"))
  | found :
      Requoted old new (.note (successNote old)) (.note (successNote new))

theorem Event.Requoted.of_eq {old new : String} (event event' : Event) (same : event = event') :
    Requoted old new event event' := same ▸ .same event

/-- What takes no notice of notes and of the log sees no difference between requoted events. -/
theorem Trace.filterMap_of_requoted {old new : String} {f : Event → Option β}
    (note : ∀ line, f (.note line) = none) (log : ∀ entry, f (.log entry) = none)
    {first second : List Event} (requoted : List.Forall₂ (Event.Requoted old new) first second) :
    first.filterMap f = second.filterMap f := by
  induction requoted with
  | nil => rfl
  | cons head _ ih =>
      rw [List.filterMap_cons, List.filterMap_cons, ih]
      cases head <;> simp only [note, log]

/-- Neither does what takes no notice of sinks either. -/
theorem Trace.filterMap_of_requoted_but_sink {old new : String} {f : Event → Option β}
    (sink : ∀ event, event.isOfSink = true → f event = none) (note : ∀ line, f (.note line) = none)
    (log : ∀ entry, f (.log entry) = none) {first second : List Event}
    (requoted :
      List.Forall₂ (Event.Requoted old new) (withoutSink first) (withoutSink second)) :
    first.filterMap f = second.filterMap f :=
  calc first.filterMap f = (withoutSink first).filterMap f := (filterMap_withoutSink sink _).symm
    _ = (withoutSink second).filterMap f := filterMap_of_requoted note log requoted
    _ = second.filterMap f := filterMap_withoutSink sink _

/-- From any two states with the invariant the computations return the same, in states with it, and
but for the sink what they do corresponds event by event. -/
def Traced.Alike (inv : σ → Prop) (R : Event → Event → Prop) (x y : Action σ α) : Prop :=
  ∀ s s', inv s → inv s' →
    (x s).result = (y s').result ∧ inv (x s).state ∧ inv (y s').state ∧
      List.Forall₂ R (withoutSink (x s).trace) (withoutSink (y s').trace)

namespace Traced.Alike

variable {inv : σ → Prop} {R R' : Event → Event → Prop} {x y : Action σ α}
  {f g : α → Action σ β}

theorem pure (a : α) : Alike inv R (pure a) (pure a) :=
  fun _ _ start start' => ⟨rfl, start, start', .nil⟩

theorem fail (failure : Failure) :
    Alike inv R (Traced.fail failure : Action σ α) (Traced.fail failure) :=
  fun _ _ start start' => ⟨rfl, start, start', .nil⟩

theorem mono (sub : ∀ event event', R event event' → R' event event') (alike : Alike inv R x y) :
    Alike inv R' x y := by
  intro s s' start start'
  obtain ⟨ended, kept, kept', seen⟩ := alike s s' start start'
  exact ⟨ended, kept, kept', seen.imp sub⟩

theorem bind (first : Alike inv R x y) (second : ∀ a, Alike inv R (f a) (g a)) :
    Alike inv R (x >>= f) (y >>= g) := by
  intro s s' start start'
  obtain ⟨ended, kept, kept', seen⟩ := first s s' start start'
  cases result : (y s').result with
  | error failure =>
      rw [bind_of_error (s := s') (by rw [← result]), bind_of_error (by rw [← ended.trans result])]
      exact ⟨rfl, kept, kept', seen⟩
  | ok a =>
      obtain ⟨ended', kept₂, kept₂', seen'⟩ := second a _ _ kept kept'
      rw [bind_of_ok (s := s') (by rw [← result]), bind_of_ok (by rw [← ended.trans result])]
      refine ⟨ended', kept₂, kept₂', ?_⟩
      rw [withoutSink_append, withoutSink_append]
      exact List.rel_append seen seen'

theorem within (target : String) (alike : Alike inv Eq x y) :
    Alike inv Eq (x.relabel (Event.within target) id) (y.relabel (Event.within target) id) := by
  intro s s' start start'
  obtain ⟨ended, kept, kept', seen⟩ := alike s s' start start'
  rw [relabel_id_apply, relabel_id_apply]
  refine ⟨ended, kept, kept', ?_⟩
  rw [List.forall₂_eq_eq_eq] at seen ⊢
  rw [withoutSink_within, withoutSink_within, seen]

theorem emit {event event' : Event} (related : R event event')
    (shown : event.isOfSink = false) (shown' : event'.isOfSink = false) :
    Alike inv R (Traced.emit event) (Traced.emit event') := by
  intro s s' start start'
  refine ⟨rfl, start, start', ?_⟩
  simpa [withoutSink, emit_apply, shown, shown'] using related

/-- Calls of a sink that does not fail. -/
theorem call {made made' : SinkAction σ Unit}
    (ends : ∀ s, inv s → (made s).result = .ok () ∧ inv (made s).state)
    (ends' : ∀ s, inv s → (made' s).result = .ok () ∧ inv (made' s).state) :
    Alike inv R (made.relabel SinkEvent.toEvent Failure.output)
      (made'.relabel SinkEvent.toEvent Failure.output) := by
  intro s s' start start'
  simp only [relabel_apply, withoutSink_sink, ends s start, ends' s' start']
  exact ⟨trivial, trivial, trivial, .nil⟩

end Traced.Alike

theorem Settings.exists_withSlash (path : String) :
    ∃ stem, (withSlash path).toList = stem ++ ['/'] := by
  unfold withSlash
  split
  · next slash => exact ⟨_, (List.dropLast_append_getLast? _ slash).symm⟩
  · exact ⟨path.toList, by simp⟩

/-- The path of a collection that was set ends in a slash. -/
theorem Settings.exists_of_ofEnvironment {env : Environment} {settings : Settings}
    (loaded : Settings.ofEnvironment env = .ok settings) :
    ∃ stem, settings.reportBase.toList = stem ++ ['/'] := by
  unfold ofEnvironment at loaded
  cases scheme : readScheme env with
  | error fault => simp [scheme, bind, Except.bind] at loaded
  | ok _ =>
      cases timeout : readTimeout env with
      | error fault => simp [scheme, timeout, bind, Except.bind] at loaded
      | ok _ =>
          cases verify : readVerifyTls env with
          | error fault => simp [scheme, timeout, verify, bind, Except.bind] at loaded
          | ok _ =>
              simp only [scheme, timeout, verify, bind, Except.bind, pure, Except.pure,
                Except.ok.injEq] at loaded
              rw [← loaded]
              exact exists_withSlash _

/-- A text with its only slash at the end does not stand across a slash. -/
theorem infix_or_of_infix_append {part stem rest : List Char} (single : '/' ∉ part)
    (across : part ++ ['/'] <:+: stem ++ ['/'] ++ rest) :
    part ++ ['/'] <:+: stem ++ ['/'] ∨ part ++ ['/'] <:+: rest := by
  obtain ⟨before, after, same⟩ := across
  have split : before ++ part ++ '/' :: after = stem ++ '/' :: rest := by simpa using same
  rcases List.append_eq_append_iff.mp split with ⟨m, rfl, right⟩ | ⟨m, left, right⟩
  · -- The slash of the text is that of the stem, or stands before it.
    left
    cases m with
    | nil => exact ⟨before, [], by simp⟩
    | cons c m =>
        obtain ⟨rfl, -⟩ := List.cons.inj right
        exact ⟨before, m ++ ['/'], by simp⟩
  · cases m with
    | nil =>
        obtain rfl : before ++ part = stem := by simpa using left
        exact .inl ⟨before, [], by simp⟩
    | cons c m =>
        obtain ⟨rfl, later⟩ := List.cons.inj right
        rcases List.append_eq_append_iff.mp left with ⟨n, -, inside⟩ | ⟨n, -, inside⟩
        · exact absurd (by simp [inside]) single
        · cases n with
          | nil => exact absurd (by simp [← show _ = part from inside]) single
          | cons d n =>
              obtain ⟨-, parts⟩ := List.cons.inj inside
              exact .inr ⟨n, after, by simp [later, parts]⟩

namespace Lookup

variable {inv : σ → Prop}

theorem alike_related (l : Lookup σ) (reliable : l.sink.Reliable inv) :
    l.Related l (Traced.Alike inv Eq) where
  reportBase := rfl
  pure := .pure
  fail failure _ := .fail failure
  bind := .bind
  within target _ _ alike := alike.within target
  log _ _ := .emit rfl rfl rfl
  note line := (Traced.Alike.emit rfl rfl rfl).bind fun _ =>
    .call (reliable.note line) (reliable.note line)
  report r := (Traced.Alike.emit rfl rfl rfl).bind fun _ =>
    .call (reliable.report r) (reliable.report r)
  fetch path resource := by
    intro s s' start start'
    simp only [fetch_apply]
    exact ⟨trivial, start, start', List.forall₂_refl _⟩

variable {old new : String}

theorem note_alike (l : Lookup σ) (reliable : l.sink.Reliable inv) {line line' : String}
    (requoted : Event.Requoted old new (.note line) (.note line')) :
    Traced.Alike inv (Event.Requoted old new) (l.note line) (l.note line') :=
  (Traced.Alike.emit requoted rfl rfl).bind fun _ =>
    .call (reliable.note line) (reliable.note line')

theorem resolve_alike (l : Lookup σ) (reliable : l.sink.Reliable inv)
    (whole : hasFragment old = false) (whole' : hasFragment new = false)
    (path : l.reportPath old = l.reportPath new) :
    Traced.Alike inv (Event.Requoted old new) (l.resolve old) (l.resolve new) := by
  have related := l.alike_related reliable
  simp only [resolve, whole, whole', path]
  apply (l.note_alike reliable .announced).bind
  intro _
  apply Traced.Alike.mono Event.Requoted.of_eq
  apply (related.fetch (l.reportPath new) .report).bind
  intro document
  exact (related.log _ _).bind fun _ => related.targetsOf document

/-- Two arguments without fragments that lead to one report are looked up alike. -/
theorem run_alike (l : Lookup σ) (reliable : l.sink.Reliable inv)
    (whole : hasFragment old = false) (whole' : hasFragment new = false)
    (path : l.reportPath old = l.reportPath new) :
    Traced.Alike inv (Event.Requoted old new) (l.run old) (l.run new) := by
  have related := l.alike_related reliable
  apply (l.resolve_alike reliable whole whole' path).bind
  intro targets
  apply (Traced.Alike.emit (.counted targets.size) rfl rfl).bind
  intro _
  have warned : Traced.Alike inv (Event.Requoted old new) (warnOfNone old targets)
      (warnOfNone new targets) := by
    unfold warnOfNone
    split
    · exact .emit .none rfl rfl
    · exact .pure ()
  apply warned.bind
  intro _
  apply ((related.fetchAll targets.toList).mono Event.Requoted.of_eq).bind
  intro _
  exact l.note_alike reliable .found

/-- The part of an argument by which paths are told from ids. -/
def marked (text : String) : Bool := containsText "MetricReports/".toList text.toList

theorem marked_append {base id : String} {stem : List Char} (slash : base.toList = stem ++ ['/'])
    (short : marked id = false) : marked (base ++ id) = marked base := by
  have outside : ¬ "MetricReports/".toList <:+: id.toList := by
    rw [← containsText_iff, ← marked, short]
    exact Bool.false_ne_true
  rw [Bool.eq_iff_iff, marked, marked, containsText_iff, containsText_iff, String.toList_append]
  constructor
  · intro across
    have parts : "MetricReports/".toList = "MetricReports".toList ++ ['/'] := by decide
    have single : '/' ∉ "MetricReports".toList := by decide
    rw [parts] at outside ⊢
    rw [slash, parts] at across
    rw [slash]
    exact (infix_or_of_infix_append single across).resolve_right outside
  · intro inside
    exact inside.trans (List.prefix_append _ _).isInfix

theorem head?_fetches_run (l : Lookup σ) (reliable : l.sink.Reliable inv) {input : String}
    (whole : hasFragment input = false) {s : σ} (start : inv s) :
    (fetches (l.run input s).trace).head? = some (l.reportPath input, .report) := by
  obtain ⟨result, names⟩ := l.exists_names input
  have follows := l.run_follows_runScript reliable.keeps names
  rw [← fetches_steps, (follows.complete start).1, runScript, fetches_append,
    fetches_resolveScript, whole]
  rfl

theorem reportPath_id (l : Lookup σ) {id : String} (short : marked id = false) :
    l.reportPath id = l.reportBase ++ id := by
  rw [reportPath, ← marked, short]
  rfl

/-- What two runs have in common that differ in the argument that they quote. -/
structure NamesOne (old new : String) (first second : Outcome Event Failure σ Unit) : Prop where
  returned : first.result = second.result
  fetched : fetches first.trace = fetches second.trace
  requested : requests first.trace = requests second.trace
  reported : reports first.trace = reports second.trace
  requoted : List.Forall₂ (Event.Requoted old new) (withoutSink first.trace)
    (withoutSink second.trace)

theorem run_namesOne (l : Lookup σ) (reliable : l.sink.Reliable inv)
    (whole : hasFragment old = false) (whole' : hasFragment new = false)
    (path : l.reportPath old = l.reportPath new) {s : σ} (start : inv s) :
    NamesOne old new (l.run old s) (l.run new s) := by
  obtain ⟨returned, -, -, seen⟩ := l.run_alike reliable whole whole' path s s start start
  exact
    { returned
      fetched := filterMap_of_requoted_but_sink Event.fetch?_of_sink (fun _ => rfl) (fun _ => rfl) seen
      requested :=
        filterMap_of_requoted_but_sink Event.request?_of_sink (fun _ => rfl) (fun _ => rfl) seen
      reported :=
        filterMap_of_requoted_but_sink Event.report?_of_sink (fun _ => rfl) (fun _ => rfl) seen
      requoted := seen }

/-- With a collection that was set, an id and its path name one report where the collection's path
is marked. Elsewhere the collection's path is put before the path again. -/
theorem run_of_path {env : Environment} {settings : Settings}
    (loaded : Settings.ofEnvironment env = .ok settings)
    (base : '#' ∉ settings.reportBase.toList) {id : String} (plain : '#' ∉ id.toList)
    (short : marked id = false) (source : Source) (sink : Sink σ)
    (reliable : sink.Reliable inv) {s : σ} (start : inv s) :
    let l : Lookup σ := ⟨source, settings.reportBase, sink⟩
    let path := settings.reportBase ++ id
    (fetches (l.run id s).trace).head? = some (path, .report) ∧
      (marked settings.reportBase = true → NamesOne id path (l.run id s) (l.run path s)) ∧
      (marked settings.reportBase = false →
        (fetches (l.run path s).trace).head? = some (settings.reportBase ++ path, .report)) := by
  intro l path
  obtain ⟨stem, slash⟩ := Settings.exists_of_ofEnvironment loaded
  have mark : marked path = marked settings.reportBase := marked_append slash short
  have whole : hasFragment id = false := by simpa [hasFragment] using plain
  have whole' : hasFragment path = false := by simp [hasFragment, path, base, plain]
  have named : l.reportPath id = path := l.reportPath_id short
  refine ⟨?_, ?_, ?_⟩
  · rw [l.head?_fetches_run reliable whole start, named]
  · intro marks
    have placed : l.reportPath path = path := if_pos (mark.trans marks)
    exact l.run_namesOne reliable whole whole' (named.trans placed.symm) start
  · intro unmarked
    rw [l.head?_fetches_run reliable whole' start, l.reportPath_id (mark.trans unmarked)]

/-- One report without entries. -/
def onlyReport (path : String) : Source := fun asked resource =>
  if asked = path then pure (.object [("MetricValues", .array [])])
  else Traced.fail (.status resource asked 404)

theorem run_of_path_default :
    let l : Lookup Unit := ⟨onlyReport (Settings.defaultReportBase ++ "Power"),
      Settings.defaultReportBase, .silent⟩
    Settings.ofEnvironment .empty = .ok ⟨"https", 30, false, Settings.defaultReportBase⟩ ∧
      '#' ∉ Settings.defaultReportBase.toList ∧ '#' ∉ "Power".toList ∧
      marked "Power" = false ∧ marked Settings.defaultReportBase = true ∧
      Sink.silent.Reliable (fun _ => True) ∧
      NamesOne "Power" (Settings.defaultReportBase ++ "Power") (l.run "Power" ())
        (l.run (Settings.defaultReportBase ++ "Power") ()) := by
  intro l
  have loaded : Settings.ofEnvironment .empty =
      .ok ⟨"https", 30, false, Settings.defaultReportBase⟩ := by decide
  have base : '#' ∉ Settings.defaultReportBase.toList := by decide
  have plain : '#' ∉ "Power".toList := by decide
  have short : marked "Power" = false := by decide
  have marks : marked Settings.defaultReportBase = true := by decide
  exact ⟨loaded, base, plain, short, marks, Sink.silent_reliable,
    (run_of_path loaded base plain short _ _ Sink.silent_reliable trivial).2.1 marks⟩

/-- A collection whose path is not marked. -/
theorem run_of_path_custom :
    let base := "/custom/Reports/"
    let l : Lookup Unit := ⟨onlyReport "/custom/Reports/Power", base, .silent⟩
    Settings.ofEnvironment (Environment.empty.set "REDFISH_REPORT_BASE" "/custom/Reports") =
        .ok ⟨"https", 30, false, base⟩ ∧
      '#' ∉ base.toList ∧ '#' ∉ "Power".toList ∧ marked "Power" = false ∧
      Sink.silent.Reliable (fun _ => True) ∧
      (l.run "Power" ()).result = .ok () ∧
      (l.run (base ++ "Power") ()).result =
        .error (.status .report "/custom/Reports//custom/Reports/Power" 404) := by
  refine ⟨by decide +kernel, by decide, by decide, by decide, Sink.silent_reliable, ?_, ?_⟩
  · rfl
  · rfl

end Lookup
end SensorThresholds
