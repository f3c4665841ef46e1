import SensorThresholds.Http
import SensorThresholds.Proofs.Run

/-!
Which paths are asked for. What a report lists is taken for a path as it stands, and a client puts
it right behind its host.
-/

namespace SensorThresholds
open Trace

def IsAbsolute (path : String) : Prop := path.toList.head? = some '/'

instance (path : String) : Decidable (IsAbsolute path) :=
  inferInstanceAs (Decidable (path.toList.head? = some '/'))

theorem IsAbsolute.append {base : String} (absolute : IsAbsolute base) (rest : String) :
    IsAbsolute (base ++ rest) := head?_toList_append absolute rest

namespace Lookup

variable {σ : Type}

/-- The first target without a report does not depend on the sink. -/
theorem reached_sink {τ : Type} (l : Lookup σ) (sink : Sink τ) (paths : List String) :
    reached ⟨l.source, l.reportBase, sink⟩ paths = l.reached paths := by
  induction paths with
  | nil => rfl
  | cons path rest ih =>
      simp only [reached, ih]
      rfl

theorem mem_of_mem_reached (l : Lookup σ) {paths : List String} {path : String}
    (member : path ∈ l.reached paths) : path ∈ paths := (l.reached_part paths).subset member

theorem fetches_runScript (l : Lookup σ) {input : String} (plain : '#' ∉ input.toList)
    (paths : List String) (result : Except Failure Unit) :
    fetches (l.resolveScript input ++ (paths.flatMap l.targetScript ++ closing input result)) =
      (l.reportPath input, .report) :: paths.map fun path => (path, .attributes) := by
  have single : hasFragment input = false := by simpa [hasFragment] using plain
  rw [fetches_append, fetches_append, fetches_resolveScript, fetches_targets, fetches_closing,
    single, List.append_nil]
  rfl

/-- Whatever the sink does, a run asks for its report and for what the report lists. -/
theorem fetched_in_run (l : Lookup σ) {input : String} (plain : '#' ∉ input.toList) (s : σ)
    {path : String} {resource : Resource}
    (fetched : (path, resource) ∈ fetches (l.run input s).trace) :
    path = l.reportPath input ∨
      ∃ paths, l.Names input (.ok paths) ∧ path ∈ l.reached paths := by
  have single : hasFragment input = false := by simpa [hasFragment] using plain
  obtain ⟨targets, named, part⟩ := l.fetches_run_part input s
  have member := part.subset fetched
  rw [fetches_resolveScript, single] at member
  rcases List.mem_cons.mp member with same | member
  · exact .inl (congrArg Prod.fst same)
  · obtain ⟨target, come, same⟩ := List.mem_map.mp member
    obtain rfl : target = path := congrArg Prod.fst same
    exact .inr (named target come)

theorem fetches_run_silent (source : Source) (base : String) {input : String}
    (plain : '#' ∉ input.toList) {paths : List String}
    (names : Names ⟨source, base, .silent⟩ input (.ok paths)) :
    fetches (run ⟨source, base, .silent⟩ input ()).trace =
      (reportPath ⟨source, base, .silent⟩ input, .report) ::
        (reached ⟨source, base, .silent⟩ paths).map fun path => (path, .attributes) := by
  have played : steps (run ⟨source, base, .silent⟩ input ()).trace = _ :=
    ((run_follows _ Sink.silent_reliable.keeps names).complete trivial).1
  rw [← fetches_steps, played, fetches_runScript _ plain]

/-- From a collection with an absolute path, all paths that are asked for are absolute exactly if
those are that the report lists, up to the first target without a report. -/
theorem fetches_absolute_iff (source : Source) {base input : String} (rooted : IsAbsolute base)
    (plain : '#' ∉ input.toList) (unmarked : ¬ "MetricReports/".toList <:+: input.toList) :
    (∀ (σ : Type) (sink : Sink σ) (s : σ) (path : String) (resource : Resource),
      (path, resource) ∈ fetches (run ⟨source, base, sink⟩ input s).trace → IsAbsolute path) ↔
      ∀ paths, Resolves (source (base ++ input) .report ()).result (.ok paths) →
        ∀ path ∈ reached ⟨source, base, .silent⟩ paths, IsAbsolute path := by
  have byId : containsText "MetricReports/".toList input.toList = false :=
    Bool.eq_false_iff.mpr (mt (containsText_iff _ _).mp unmarked)
  have single : hasFragment input = false := by simpa [hasFragment] using plain
  have path {σ : Type} (sink : Sink σ) : reportPath ⟨source, base, sink⟩ input = base ++ input := by
    rw [reportPath, byId]
    rfl
  have names {σ : Type} (sink : Sink σ) (paths : List String) :
      Names ⟨source, base, sink⟩ input (.ok paths) ↔
        Resolves (source (base ++ input) .report ()).result (.ok paths) := by
    rw [Names, single, path]
    rfl
  constructor
  -- A sink that takes everything lets the run come to all the paths that it can come to.
  · intro all paths resolves target come
    apply all Unit .silent () target .attributes
    rw [fetches_run_silent source base plain ((names .silent paths).mpr resolves)]
    exact List.mem_cons_of_mem _ (List.mem_map.mpr ⟨target, come, rfl⟩)
  · intro listed σ sink s target resource fetched
    rcases fetched_in_run _ plain s fetched with rfl | ⟨paths, named, come⟩
    · rw [path]
      exact rooted.append input
    · rw [← reached_sink _ Sink.silent] at come
      exact listed paths ((names sink paths).mp named) target come

theorem fetches_absolute_pair :
    IsAbsolute "/reports/" ∧ '#' ∉ "Power".toList ∧
      ¬ "MetricReports/".toList <:+: "Power".toList ∧
      ∀ (σ : Type) (sink : Sink σ) (s : σ) (path : String) (resource : Resource),
        (path, resource) ∈ fetches (run ⟨pairSource, "/reports/", sink⟩ "Power" s).trace →
          IsAbsolute path := by
  have rooted : IsAbsolute "/reports/" := by decide
  have plain : '#' ∉ "Power".toList := by decide
  have unmarked : ¬ "MetricReports/".toList <:+: "Power".toList := by decide
  refine ⟨rooted, plain, unmarked, (fetches_absolute_iff pairSource rooted plain unmarked).mpr ?_⟩
  intro paths resolves path come
  have names : Names ⟨pairSource, "/reports/", .silent⟩ "Power" (.ok paths) := by
    rw [Names, if_neg (by decide)]
    exact resolves
  obtain rfl : paths = ["/a", "/b"] :=
    Except.ok.inj (names_unique names (names_pair "/reports/" .silent))
  have both : ∀ path ∈ ["/a", "/b"], IsAbsolute path := by decide
  exact both path (mem_of_mem_reached _ come)

/-- A report of one property, whose path is not absolute. -/
def straySource : Source
  | _, .report =>
    pure (.object [("MetricValues", .array [.object [("MetricProperty", .string "@other/x")]])])
  | path, .attributes => Traced.fail (.status .attributes path 404)

/-- What a report lists can lead to another host. -/
theorem stray_path_fetched :
    IsAbsolute "/reports/" ∧ '#' ∉ "Power".toList ∧
      ¬ "MetricReports/".toList <:+: "Power".toList ∧ ¬ IsAbsolute "@other/x" ∧
      ("@other/x", .attributes) ∈
        fetches (run ⟨straySource, "/reports/", .silent⟩ "Power" ()).trace ∧
      Url.parse? (Client.url ⟨"http", "idrac", "root", "calvin"⟩ "@other/x") =
        Url.parse? "http://other/x" := by
  have names : Names ⟨straySource, "/reports/", .silent⟩ "Power" (.ok ["@other/x"]) := by
    rw [Names, if_neg (by decide)]
    exact @Resolves.of_references _ _ ["@other/x"] rfl (by simp [referenceOf?, Json.get?])
  refine ⟨by decide, by decide, by decide, by decide, ?_, rfl⟩
  rw [fetches_run_silent straySource "/reports/" (by decide) names]
  exact List.mem_cons_of_mem _ List.mem_cons_self

end Lookup
end SensorThresholds
