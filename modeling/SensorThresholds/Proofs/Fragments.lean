import SensorThresholds.Proofs.AttributesDocument
import SensorThresholds.Proofs.FirstFailure
import SensorThresholds.Proofs.ReadMembers

/-!
Fragments of references. They are stripped wherever a reference becomes a path, so that no path that
is asked for has one. References with one path are looked up in the same way, and only what quotes
them tells them apart.
-/

namespace SensorThresholds
open Trace

variable {σ α : Type}

theorem Event.within_of_not_isLog (target : String) {event : Event}
    (shown : event.isLog = false) : event.within target = event := by
  cases event with
  | log entry => cases shown
  | _ => rfl

/-- Naming a property shows in the log only. -/
theorem Traced.sameBut_within (target : String) (x : Action σ α) :
    SameBut Event.isLog x (x.relabel (Event.within target) id) := by
  intro s
  have named (trace : List Event) :
      (trace.map (Event.within target)).filter (!·.isLog) = trace.filter (!·.isLog) := by
    induction trace with
    | nil => rfl
    | cons event rest ih =>
        cases log : event.isLog with
        | true => simp [Lookup.isLog_within, log, ih]
        | false => simp [Event.within_of_not_isLog target log, log, ih]
  rw [relabel_id_apply]
  exact ⟨rfl, rfl, (named _).symm⟩

theorem hasFragment_fragment (path fragment : String) :
    hasFragment (path ++ "#" ++ fragment) = true := by
  simp [hasFragment]

theorem TargetSet.toList_insert_empty (reference : String) :
    (empty.insert reference).2.toList = [stripFragment reference] := by
  simp [toList_insert, toList_empty]

namespace Lookup

variable {inv : σ → Prop} {faults : OutputFault → Prop}

theorem fetchAndReport_stripFragment (l : Lookup σ) (reference : String) :
    l.fetchAndReport reference =
      (l.fetchAndReport (stripFragment reference)).relabel (Event.within reference) id := by
  have outermost : Event.within reference ∘ Event.within (stripFragment reference) =
      Event.within reference := funext (Event.within_within _ _)
  rw [fetchAndReport, fetchAndReport, stripFragment_stripFragment, Traced.relabel_relabel,
    outermost]
  rfl

/-- A reference with a fragment stands for one target, which is looked up by its path. -/
theorem run_fragment (l : Lookup σ) {reference : String} (single : hasFragment reference = true) :
    l.run reference = (do
      log .debug s!"Resolved {1} metric properties from '{reference}'"
      let _ ← l.fetchAndReport (stripFragment reference)
      l.note (successNote reference)) := by
  have listed := TargetSet.toList_insert_empty reference
  have size : (TargetSet.empty.insert reference).2.size = 1 := by
    rw [← TargetSet.length_toList, listed, List.length_singleton]
  have nonempty : ¬ (TargetSet.empty.insert reference).2.isEmpty = true := by
    rw [TargetSet.isEmpty_iff, listed]
    simp
  have resolved : l.resolve reference = pure (TargetSet.empty.insert reference).2 := by
    rw [resolve, if_pos single]
  rw [run, resolved, pure_bind, size, listed, warnOfNone, if_neg nonempty]
  simp only [fetchAll, pure_bind, bind_assoc]
  rfl

/-- The run of a reference with a fragment is its lookup, and the last note where that succeeds. -/
theorem run_fragment_sameBut (l : Lookup σ) {reference : String}
    (single : hasFragment reference = true) :
    Traced.SameBut Event.isLog (l.run reference) (do
      let _ ← l.fetchAndReport reference
      l.note (successNote reference)) := by
  have logged : Traced.SameBut Event.isLog
      (log .debug s!"Resolved {1} metric properties from '{reference}'" : Action σ Unit)
      (pure ()) := fun _ => ⟨rfl, rfl, rfl⟩
  have named := Traced.sameBut_within reference (l.fetchAndReport (stripFragment reference))
  rw [run_fragment l single, fetchAndReport_stripFragment l reference]
  exact logged.bind fun _ => named.bind fun _ => .refl _

theorem run_follows_fragment (l : Lookup σ) (keeps : l.sink.Keeps inv faults) {path : String}
    (plain : '#' ∉ path.toList) (fragment : String) :
    Traced.Follows inv faults (l.run (path ++ "#" ++ fragment))
      (l.targetScript path ++ closing (path ++ "#" ++ fragment) (l.verdict [path]))
      (l.verdict [path]) := by
  have single := hasFragment_fragment path fragment
  have names : l.Names (path ++ "#" ++ fragment) (.ok [path]) := by
    rw [Names, if_pos single, stripFragment_fragment plain]
  have reached : l.reached [path] = [path] := by
    rw [Lookup.reached]
    cases l.answer path <;> rfl
  have played := l.run_follows keeps names
  rw [reached, List.flatMap_singleton, resolveScript, if_pos single, List.nil_append] at played
  exact played

theorem fetchAndReport_follows_path (l : Lookup σ) (keeps : l.sink.Keeps inv faults)
    (reference : String) :
    Traced.Follows inv faults (l.fetchAndReport reference)
      (l.targetScript (stripFragment reference)) (l.answer (stripFragment reference)) := by
  rw [fetchAndReport_stripFragment]
  exact (fetchAndReport_follows l keeps (stripFragment_stripFragment reference)).within reference

/-- What is seen of the lookup of a path: nothing is asked for but its attributes, and nothing
handed over but a report on it. Where it ends well, that is its result. -/
structure LooksUp (path : String) (lookup : Outcome Event Failure σ Report) : Prop where
  asked : fetches lookup.trace <+: [(path, .attributes)]
  named : ∀ r ∈ reports lookup.trace, r.property = path
  returned : ∀ r, lookup.result = .ok r →
    fetches lookup.trace = [(path, .attributes)] ∧ reports lookup.trace = [r]

theorem fetchAndReport_looksUp (l : Lookup σ) (reference : String) (s : σ) :
    LooksUp (stripFragment reference) (l.fetchAndReport reference s) := by
  have follows := l.fetchAndReport_follows_path l.sink.keeps_trivial reference
  generalize stripFragment reference = path at follows
  have played := follows.steps_part (s := s) trivial
  constructor
  · rw [← fetches_steps, ← l.fetches_targetScript path]
    exact played.filterMap Event.fetch?
  · intro r member
    rw [← reports_steps] at member
    have found := (played.filterMap Event.report?).subset member
    rw [← reports, reports_targetScript] at found
    cases answered : l.answer path with
    | error failure => simp [answered, Except.toOption] at found
    | ok made =>
        obtain rfl : r = made := by simpa [answered, Except.toOption] using found
        exact (l.shape_of_answer answered).1
  · intro r returned
    rcases follows s trivial with ⟨complete, ended, -⟩ | ⟨-, fault, -, broken⟩
    · have answered : l.answer path = .ok r := ended.symm.trans returned
      rw [← fetches_steps, ← reports_steps, complete, fetches_targetScript, reports_targetScript,
        answered]
      exact ⟨rfl, rfl⟩
    · rw [broken] at returned
      cases returned

theorem names_of_resolved (l : Lookup σ) {input : String} {s : σ} {targets : TargetSet}
    (resolved : (l.resolve input s).result = .ok targets) : l.Names input (.ok targets.toList) := by
  obtain ⟨result, names⟩ := l.exists_names input
  obtain ⟨ended, follows, rfl⟩ := l.resolve_follows l.sink.keeps_trivial names
  rcases follows s trivial with ⟨-, same, -⟩ | ⟨-, fault, -, broken⟩
  · obtain rfl : ended = .ok targets := same.symm.trans resolved
    exact names
  · rw [broken] at resolved
    cases resolved

/-- The reports of a run are on its targets, in order. -/
theorem properties_reached_part (l : Lookup σ) (paths : List String) :
    ((l.reached paths).filterMap fun path => (l.answer path).toOption).map Report.property <+:
      paths := by
  induction paths with
  | nil => exact List.prefix_rfl
  | cons path rest ih =>
      rw [reached]
      cases answered : l.answer path with
      | ok r =>
          have property := (l.shape_of_answer answered).1
          simpa [answered, Except.toOption, property] using ih
      | error failure => simp [answered, Except.toOption]

/-- Whatever the sink does, a run asks for its report and then for attributes at paths without
fragments. -/
theorem run_asks (l : Lookup σ) (input : String) (s : σ) :
    ∃ targets : List String, (∀ path ∈ targets, stripFragment path = path) ∧
      fetches (l.run input s).trace <+:
        fetches (l.resolveScript input) ++ targets.map fun path => (path, .attributes) := by
  obtain ⟨targets, named, part⟩ := l.fetches_run_part input s
  refine ⟨targets, ?_, part⟩
  intro path member
  obtain ⟨paths, names, come⟩ := named path member
  exact l.stripFragment_of_names names path ((l.reached_part paths).subset come)

theorem hash_not_mem_reportPath (l : Lookup σ) (base : '#' ∉ l.reportBase.toList) {input : String}
    (plain : '#' ∉ input.toList) : '#' ∉ (l.reportPath input).toList := by
  unfold reportPath
  split
  · exact plain
  · simp [base, plain]

theorem hash_not_mem_fetched (l : Lookup σ) (base : '#' ∉ l.reportBase.toList) (input : String)
    (s : σ) {path : String} {resource : Resource}
    (fetched : (path, resource) ∈ fetches (l.run input s).trace) : '#' ∉ path.toList := by
  obtain ⟨targets, stripped, part⟩ := l.run_asks input s
  rcases List.mem_append.mp (part.subset fetched) with opening | target
  · rw [fetches_resolveScript] at opening
    split at opening
    · cases opening
    · next whole =>
        obtain rfl : path = l.reportPath input := congrArg Prod.fst (List.mem_singleton.mp opening)
        exact l.hash_not_mem_reportPath base (by simpa [hasFragment] using whole)
  · obtain ⟨other, member, same⟩ := List.mem_map.mp target
    obtain rfl : other = path := congrArg Prod.fst same
    rw [← stripped other member]
    exact hash_not_mem_stripFragment other

/-- Whatever the sink does, the targets that an argument resolves to are asked for as they stand,
and reported on under that name. -/
theorem run_of_resolved (l : Lookup σ) {input : String} {s : σ} {targets : TargetSet}
    (resolved : (l.resolve input s).result = .ok targets) :
    attributePaths (l.run input s).trace <+: targets.toList ∧
      (reports (l.run input s).trace).map Report.property <+: targets.toList := by
  have names := l.names_of_resolved resolved
  have played := (l.run_follows l.sink.keeps_trivial names).steps_part (s := s) trivial
  constructor
  · have part := (played.filterMap Event.fetch?).filterMap fun (fetch : String × Resource) =>
      if fetch.2 = .attributes then some fetch.1 else none
    rw [← attributePaths_steps]
    refine part.trans ?_
    show attributePaths (_ ++ (_ ++ _)) <+: _
    rw [attributePaths_append, attributePaths_append, attributePaths_resolveScript,
      attributePaths_targets, attributePaths, fetches_closing]
    simpa using l.reached_part targets.toList
  · have part := (played.filterMap Event.report?).map Report.property
    rw [← reports_steps]
    refine part.trans ?_
    show (reports (_ ++ (_ ++ _))).map _ <+: _
    rw [reports_append, reports_append, reports_resolveScript, reports_targets, reports_closing]
    simpa using l.properties_reached_part targets.toList

/-- What a run of a single reference does on a sink that takes everything. Only its last note quotes
the reference. -/
theorem run_fragment_steps (l : Lookup σ) (reliable : l.sink.Reliable inv) {path : String}
    (plain : '#' ∉ path.toList) (fragment : String) {s : σ} (start : inv s) :
    let reference := path ++ "#" ++ fragment
    (l.run reference s).result = l.verdict [path] ∧
      steps (l.run reference s).trace =
        l.targetScript path ++ closing reference (l.verdict [path]) := by
  obtain ⟨played, returned, -⟩ :=
    (l.run_follows_fragment reliable.keeps plain fragment).complete start
  exact ⟨returned, played⟩

/-- From a collection without a fragment, no path that is asked for has one, and targets are asked
for and reported on as they stand. Two references with one path are looked up alike but for the last
note, and as a lookup of the reference itself is, which that note follows if it succeeds. -/
theorem fragments_stripped (l : Lookup σ) (base : '#' ∉ l.reportBase.toList) :
    (∀ input s path resource, (path, resource) ∈ fetches (l.run input s).trace →
      '#' ∉ path.toList) ∧
    (∀ input s targets, (l.resolve input s).result = .ok targets →
      (∀ path ∈ targets.toList, stripFragment path = path ∧
        ∀ s, LooksUp path (l.fetchAndReport path s)) ∧
      attributePaths (l.run input s).trace <+: targets.toList ∧
      (reports (l.run input s).trace).map Report.property <+: targets.toList) ∧
    ∀ path first second, '#' ∉ path.toList →
      let reference := path ++ "#" ++ first
      let other := path ++ "#" ++ second
      Traced.SameBut Event.isLog (l.run reference) (do
        let _ ← l.fetchAndReport reference
        l.note (successNote reference)) ∧
      ∀ inv : σ → Prop, l.sink.Reliable inv → ∀ s, inv s →
        (l.run reference s).result = (l.run other s).result ∧
        fetches (l.run reference s).trace = [(path, .attributes)] ∧
        fetches (l.run other s).trace = [(path, .attributes)] ∧
        requests (l.run reference s).trace = requests (l.run other s).trace ∧
        reports (l.run reference s).trace = reports (l.run other s).trace ∧
        notes (l.run reference s).trace =
          targetNote path :: notes (closing reference (l.run reference s).result) ∧
        notes (l.run other s).trace =
          targetNote path :: notes (closing other (l.run other s).result) := by
  refine ⟨fun input s _ _ => l.hash_not_mem_fetched base input s, ?_, ?_⟩
  · intro input s targets resolved
    refine ⟨?_, l.run_of_resolved resolved⟩
    intro path member
    have stripped := l.stripFragment_of_names (l.names_of_resolved resolved) path member
    refine ⟨stripped, fun s => ?_⟩
    have looksUp := l.fetchAndReport_looksUp path s
    rwa [stripped] at looksUp
  · intro path first second plain reference other
    refine ⟨l.run_fragment_sameBut (hasFragment_fragment path first), ?_⟩
    intro inv reliable s start
    obtain ⟨returned, played⟩ := l.run_fragment_steps reliable plain first start
    obtain ⟨returned', played'⟩ := l.run_fragment_steps reliable plain second start
    rw [returned, returned', ← fetches_steps, ← fetches_steps (l.run other s).trace,
      ← requests_steps, ← requests_steps (l.run other s).trace, ← reports_steps,
      ← reports_steps (l.run other s).trace, ← notes_steps, ← notes_steps (l.run other s).trace,
      played, played']
    simp only [fetches_append, requests_append, reports_append, notes_append,
      fetches_targetScript, notes_targetScript]
    cases l.verdict [path] <;> exact ⟨trivial, rfl, rfl, rfl, rfl, rfl, rfl⟩

theorem fragments_stripped_pair :
    let l : Lookup Unit := ⟨pairSource, "/reports/", .silent⟩
    '#' ∉ l.reportBase.toList ∧ '#' ∉ "/a".toList ∧ Sink.silent.Reliable (fun _ => True) ∧
      (l.run "/a#x" ()).result = .ok () ∧ (l.run "/a#y#z" ()).result = .ok () ∧
      fetches (l.run "/a#x" ()).trace = [("/a", .attributes)] ∧
      fetches (l.run "/a#y#z" ()).trace = [("/a", .attributes)] ∧
      notes (l.run "/a#y#z" ()).trace = [targetNote "/a", successNote "/a#y#z"] := by
  intro l
  have base : '#' ∉ l.reportBase.toList := by decide
  have plain : '#' ∉ "/a".toList := by decide
  have found : (l.run ("/a" ++ "#" ++ "y#z") ()).result = .ok () :=
    (l.run_fragment_steps Sink.silent_reliable plain "y#z" trivial).1
  obtain ⟨same, asked, asked', -, -, -, said⟩ :=
    ((l.fragments_stripped base).2.2 "/a" "x" "y#z" plain).2 _ Sink.silent_reliable () trivial
  refine ⟨base, plain, Sink.silent_reliable, same.trans found, found, asked, asked', ?_⟩
  exact said.trans (by rw [found]; rfl)

end Lookup
end SensorThresholds
