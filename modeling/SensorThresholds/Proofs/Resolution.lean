import SensorThresholds.Proofs.InOrder
import SensorThresholds.Proofs.Script
import SensorThresholds.Proofs.TargetSet

/-!
How an argument is resolved. The answer to the request for a metric report decides what the argument
stands for: the paths of its entries, each of them once, or the first thing wrong with it.
-/

namespace SensorThresholds
open Trace

theorem containsText_iff (part text : List Char) :
    containsText part text = true ↔ part <:+: text := by
  induction text with
  | nil => simp [containsText]
  | cons c rest ih =>
      rw [containsText, Bool.or_eq_true, List.isPrefixOf_iff_prefix, ih, List.infix_cons_iff]

theorem head?_toList_append {start : String} {c : Char} (first : start.toList.head? = some c)
    (rest : String) : (start ++ rest).toList.head? = some c := by
  rw [String.toList_append, List.head?_append, first, Option.some_or]

/-- The string that an entry of a report refers to, if it is an object with one. -/
def referenceOf? (entry : Document) : Option String :=
  match entry.get? "MetricProperty" with
  | some (.string reference) => some reference
  | _ => none

/-- What an answer to the request for a metric report resolves to. -/
inductive Resolves : Except Failure Document → Except Failure (List String) → Prop where
  | unanswered (failure : Failure) : Resolves (.error failure) (.error failure)
  | notAnObject {document : Document} (shape : document.isObject = false) :
      Resolves (.ok document) (.error (.notAnObject .report))
  | noValues {document : Document} (shape : document.isObject = true)
      (values : document.get? "MetricValues" = none ∨
        document.get? "MetricValues" = some .null) :
      Resolves (.ok document) (.ok [])
  | notAList {document value : Document} (values : document.get? "MetricValues" = some value)
      (present : value ≠ .null) (other : ∀ entries, value ≠ .array entries) :
      Resolves (.ok document) (.error .metricValuesNotList)
  | missing {document entry : Document} {before after : List Document}
      (values : document.get? "MetricValues" = some (.array (before ++ entry :: after)))
      (named : ∀ earlier ∈ before, (referenceOf? earlier).isSome)
      (property : entry.isObject = false ∨ entry.get? "MetricProperty" = none ∨
        entry.get? "MetricProperty" = some .null) :
      Resolves (.ok document) (.error (.missingMetricProperty before.length))
  | invalid {document entry value : Document} {before after : List Document}
      (values : document.get? "MetricValues" = some (.array (before ++ entry :: after)))
      (named : ∀ earlier ∈ before, (referenceOf? earlier).isSome)
      (property : entry.get? "MetricProperty" = some value)
      (present : value ≠ .null) (other : ∀ text, value ≠ .string text) :
      Resolves (.ok document) (.error (.invalidMetricProperty before.length value))
  | resolved {document : Document} {entries : List Document} {references paths : List String}
      (values : document.get? "MetricValues" = some (.array entries))
      (named : entries.map referenceOf? = references.map some)
      (refer : List.Forall₂ RefersTo references paths) :
      Resolves (.ok document) (.ok paths.eraseDups)

theorem Resolves.of_references {document : Document} {entries : List Document}
    {references : List String} (values : document.get? "MetricValues" = some (.array entries))
    (named : entries.map referenceOf? = references.map some) :
    Resolves (.ok document) (.ok (references.map stripFragment).eraseDups) :=
  .resolved values named (forall₂_refersTo_iff.mpr rfl)

theorem referenceOf?_eq_some {entry : Document} {reference : String}
    (named : referenceOf? entry = some reference) :
    entry.get? "MetricProperty" = some (.string reference) := by
  unfold referenceOf? at named
  split at named
  · next found => rw [found, Option.some.inj named]
  · cases named

theorem exists_references {entries : List Document}
    (named : ∀ entry ∈ entries, (referenceOf? entry).isSome) :
    ∃ references : List String, entries.map referenceOf? = references.map some := by
  refine ⟨entries.filterMap referenceOf?, ?_⟩
  rw [List.map_filterMap_some_eq_filter_map_isSome, List.filter_eq_self.mpr]
  exact List.forall_mem_map.mpr named

/-- Either every entry refers to a string, or there is a first one that does not. -/
theorem named_or_first_unnamed (entries : List Document) :
    (∃ references : List String, entries.map referenceOf? = references.map some) ∨
      ∃ before entry after, entries = before ++ entry :: after ∧
        (∀ earlier ∈ before, (referenceOf? earlier).isSome) ∧ referenceOf? entry = none := by
  rcases forall_or_first_not (fun entry => (referenceOf? entry).isSome = true) entries with
    named | ⟨before, entry, after, order, named, fault⟩
  · exact .inl (exists_references named)
  · exact .inr ⟨before, entry, after, order, named, Option.not_isSome_iff_eq_none.mp fault⟩

/-- Every answer resolves to something. -/
theorem Resolves.exists (reply : Except Failure Document) : ∃ result, Resolves reply result := by
  cases reply with
  | error failure => exact ⟨_, .unanswered failure⟩
  | ok document =>
      cases shape : document.isObject with
      | false => exact ⟨_, .notAnObject shape⟩
      | true =>
          cases values : document.get? "MetricValues" with
          | none => exact ⟨_, .noValues shape (.inl values)⟩
          | some value =>
              cases value with
              | null => exact ⟨_, .noValues shape (.inr values)⟩
              | array entries =>
                  rcases named_or_first_unnamed entries with
                    ⟨references, named⟩ | ⟨before, entry, after, rfl, named, unnamed⟩
                  · exact ⟨_, .of_references values named⟩
                  · cases property : entry.get? "MetricProperty" with
                    | none => exact ⟨_, .missing values named (.inr (.inl property))⟩
                    | some value =>
                        cases value with
                        | null => exact ⟨_, .missing values named (.inr (.inr property))⟩
                        | string reference => simp [referenceOf?, property] at unnamed
                        | _ =>
                            exact ⟨_, .invalid values named property (by simp) (by simp)⟩
              | _ => exact ⟨_, .notAList values (by simp) (by simp)⟩

namespace Lookup

variable {σ : Type} {inv : σ → Prop} {faults : OutputFault → Prop}

/-- Entries that refer to strings are gone through whatever follows them. -/
theorem collect_follows_append {before : List Document} {references : List String}
    (named : before.map referenceOf? = references.map some) (targets : TargetSet) (index : Nat)
    (rest : List Document) {result : Except Failure TargetSet}
    (later : Traced.Follows inv faults
      (collect (targets.insertAll references) (index + before.length) rest) [] result) :
    Traced.Follows inv faults (collect targets index (before ++ rest)) [] result := by
  induction before generalizing references targets index with
  | nil =>
      obtain rfl : references = [] := by simpa using named.symm
      exact later
  | cons entry before ih =>
      cases references with
      | nil => cases named
      | cons reference references =>
          rw [List.map_cons, List.map_cons, List.cons.injEq] at named
          have property : entry.field "MetricProperty" = .present (.string reference) := by
            rw [Json.field, referenceOf?_eq_some named.1]
          have reached := ih named.2 (targets.insert reference).2 (index + 1) (by
            rw [List.length_cons, Nat.add_comm before.length 1, ← Nat.add_assoc] at later
            exact later)
          simp only [List.cons_append, collect, property]
          -- A path that is there already leaves the set as it is, but counts as an entry.
          rcases inserted : targets.insert reference with ⟨_ | _, next⟩
          · rw [inserted] at reached
            apply (log_follows .debug _).bind_silent
            exact reached
          · rw [inserted] at reached
            exact reached

theorem collect_follows_resolved {entries : List Document} {references : List String}
    (named : entries.map referenceOf? = references.map some) :
    Traced.Follows inv faults (collect .empty 0 entries) []
      (.ok (TargetSet.empty.insertAll references)) := by
  rw [← List.append_nil entries]
  exact collect_follows_append named .empty 0 [] (.pure _)

/-- The first entry that refers to no string ends it, with its place in the list. -/
theorem collect_follows_fault {before after : List Document} {entry : Document}
    {failure : Failure} (named : ∀ earlier ∈ before, (referenceOf? earlier).isSome)
    (fault : ∀ targets, collect targets before.length (entry :: after) =
      (Traced.fail failure : Action σ TargetSet)) :
    Traced.Follows inv faults (collect .empty 0 (before ++ entry :: after)) []
      (.error failure) := by
  obtain ⟨references, all⟩ := exists_references named
  apply collect_follows_append all
  rw [Nat.zero_add, fault]
  exact .fail failure

theorem targetsOf_follows {document : Document} {result : Except Failure (List String)}
    (resolves : Resolves (.ok document) result) :
    ∃ ended, Traced.Follows inv faults (targetsOf document) [] ended ∧
      ended.map TargetSet.toList = result := by
  cases resolves with
  | notAnObject shape =>
      refine ⟨.error (.notAnObject .report), ?_, rfl⟩
      simp only [targetsOf, shape]
      exact .fail _
  | noValues shape values =>
      refine ⟨.ok .empty, ?_, rfl⟩
      rcases values with values | values
      all_goals
        simp only [targetsOf, shape, Json.field, values]
        exact .pure _
  | @notAList _ value values present other =>
      refine ⟨.error .metricValuesNotList, ?_, rfl⟩
      simp only [targetsOf, Json.isObject_of_get? values, Json.field, values]
      cases value with
      | null => exact absurd rfl present
      | array entries => exact absurd rfl (other entries)
      | _ => exact .fail _
  | @missing _ entry before after values named property =>
      refine ⟨.error (.missingMetricProperty before.length), ?_, rfl⟩
      simp only [targetsOf, Json.isObject_of_get? values, Json.field, values]
      apply collect_follows_fault named
      intro targets
      have absent : entry.get? "MetricProperty" = none ∨
          entry.get? "MetricProperty" = some .null := by
        rcases property with shape | property
        · cases entry with
          | object members => cases shape
          | _ => exact .inl rfl
        · exact property
      rcases absent with absent | absent <;> simp only [collect, Json.field, absent]
  | @invalid _ entry value before after values named property present other =>
      refine ⟨.error (.invalidMetricProperty before.length value), ?_, rfl⟩
      simp only [targetsOf, Json.isObject_of_get? values, Json.field, values]
      apply collect_follows_fault named
      intro targets
      simp only [collect, Json.field, property]
  | @resolved _ entries references paths values named refer =>
      obtain rfl := forall₂_refersTo_iff.mp refer
      refine ⟨.ok (TargetSet.empty.insertAll references), ?_, ?_⟩
      · simp only [targetsOf, Json.isObject_of_get? values, Json.field, values]
        exact collect_follows_resolved named
      · exact congrArg Except.ok (TargetSet.toList_insertAll_empty references)

/-- What is seen of a resolution: a report is announced and asked for once. -/
def resolveScript (l : Lookup σ) (input : String) : List Event :=
  if hasFragment input then []
  else [.note s!"For metric report: {input}"] ++ l.asked (l.reportPath input) .report

/-- What an argument resolves to: one with a `#` to its path, any other to what the report lists. -/
def Names (l : Lookup σ) (input : String) (result : Except Failure (List String)) : Prop :=
  if hasFragment input then result = .ok [stripFragment input]
  else Resolves (l.reply (l.reportPath input) .report) result

theorem resolve_follows (l : Lookup σ) (keeps : l.sink.Keeps inv faults) {input : String}
    {result : Except Failure (List String)} (names : l.Names input result) :
    ∃ ended, Traced.Follows inv faults (l.resolve input) (l.resolveScript input) ended ∧
      ended.map TargetSet.toList = result := by
  unfold Names at names
  unfold resolve resolveScript
  cases single : hasFragment input with
  | true =>
      obtain rfl : result = .ok [stripFragment input] := by simpa [single] using names
      refine ⟨.ok (TargetSet.empty.insert input).2, .pure _, ?_⟩
      exact congrArg Except.ok (by simp [TargetSet.toList_insert, TargetSet.toList_empty])
  | false =>
      have resolves : Resolves (l.reply (l.reportPath input) .report) result := by
        simpa [single] using names
      have fetched : Traced.Follows inv faults (l.fetch (l.reportPath input) .report) _ _ :=
        fetch_follows l (l.reportPath input) .report
      cases replied : l.reply (l.reportPath input) .report with
      | error failure =>
          rw [replied] at fetched resolves
          cases resolves
          exact ⟨.error failure, (note_follows l keeps _).bind fetched.bind_error, rfl⟩
      | ok document =>
          rw [replied] at fetched resolves
          obtain ⟨ended, follows, same⟩ :
              ∃ ended, Traced.Follows inv faults (targetsOf document) [] ended ∧ _ :=
            targetsOf_follows resolves
          refine ⟨ended, ?_, same⟩
          apply (note_follows l keeps _).bind
          rw [← List.append_nil (l.asked _ _)]
          apply fetched.bind
          exact (log_follows .debug _).bind_silent follows

theorem fetches_resolveScript (l : Lookup σ) (input : String) :
    fetches (l.resolveScript input) =
      if hasFragment input then [] else [(l.reportPath input, .report)] := by
  unfold resolveScript
  split
  · rfl
  · rw [fetches_append, fetches_asked]
    rfl

theorem notes_resolveScript (l : Lookup σ) (input : String) :
    notes (l.resolveScript input) =
      if hasFragment input then [] else [s!"For metric report: {input}"] := by
  unfold resolveScript
  split
  · rfl
  · rw [notes_append, notes_asked, List.append_nil]
    rfl

theorem reports_resolveScript (l : Lookup σ) (input : String) :
    reports (l.resolveScript input) = [] := by
  unfold resolveScript
  split
  · rfl
  · rw [reports_append, reports_asked]
    rfl

theorem exists_names (l : Lookup σ) (input : String) : ∃ result, l.Names input result := by
  unfold Names
  split
  · exact ⟨_, rfl⟩
  · exact Resolves.exists _

/-- What an argument names is what it resolves to, on a sink that takes everything. -/
theorem names_iff (l : Lookup σ) (reliable : l.sink.Reliable inv) {input : String} {s : σ}
    (start : inv s) {result : Except Failure (List String)} :
    l.Names input result ↔ (l.resolve input s).result.map TargetSet.toList = result := by
  have decided {result : Except Failure (List String)} (names : l.Names input result) :
      (l.resolve input s).result.map TargetSet.toList = result := by
    obtain ⟨ended, follows, same⟩ := l.resolve_follows reliable.keeps names
    rw [(follows.complete start).2.1, same]
  refine ⟨decided, ?_⟩
  rintro rfl
  obtain ⟨result, names⟩ := l.exists_names input
  rw [decided names]
  exact names

/-- An argument names no two things. -/
theorem names_unique {l : Lookup σ} {input : String} {first second : Except Failure (List String)}
    (names : l.Names input first) (others : l.Names input second) : first = second := by
  let silent : Lookup Unit := ⟨l.source, l.reportBase, .silent⟩
  have resolved {result : Except Failure (List String)} (names : silent.Names input result) :
      (silent.resolve input ()).result.map TargetSet.toList = result :=
    (silent.names_iff Sink.silent_reliable trivial).mp names
  rw [← resolved names, ← resolved others]

/-- Paths to look up have no fragment. -/
theorem stripFragment_of_names (l : Lookup σ) {input : String} {paths : List String}
    (names : l.Names input (.ok paths)) : ∀ path ∈ paths, stripFragment path = path := by
  intro path member
  have stripped : ∃ reference, stripFragment reference = path := by
    unfold Names at names
    split at names
    · obtain rfl : paths = [stripFragment input] := Except.ok.inj names
      exact ⟨input, (List.mem_singleton.mp member).symm⟩
    · generalize l.reply (l.reportPath input) .report = reply at names
      cases names with
      | noValues shape values => cases member
      | resolved values named refer =>
          obtain rfl := forall₂_refersTo_iff.mp refer
          obtain ⟨reference, -, same⟩ := List.mem_map.mp (List.mem_eraseDups.mp member)
          exact ⟨reference, same⟩
  obtain ⟨reference, rfl⟩ := stripped
  exact stripFragment_stripFragment reference

/-- A report of two properties. Only the first is known, and has no thresholds. -/
def pairSource : Source
  | _, .report => pure (.object [("MetricValues", .array
      [.object [("MetricProperty", .string "/a#x")], .object [("MetricProperty", .string "/b")]])])
  | path, .attributes =>
    if path = "/a" then
      pure (.object (("UnitModifier", .number (.integer 0)) ::
        Threshold.all.map fun threshold => (threshold.key, .null)))
    else Traced.fail (.status .attributes path 404)

theorem names_pair (base : String) (sink : Sink σ) :
    Names ⟨pairSource, base, sink⟩ "Power" (.ok ["/a", "/b"]) := by
  rw [Names, if_neg (by decide)]
  exact @Resolves.of_references _ _ ["/a#x", "/b"] rfl (by simp [referenceOf?, Json.get?])

end Lookup
end SensorThresholds
