import SensorThresholds.Proofs.AttributesDocument
import SensorThresholds.Proofs.FirstFailure

/-!
The entries of a report as a set. Two reports that name the same paths, in whatever order and however
often, make runs that succeed together and hand over the same reports up to their order.
-/

namespace SensorThresholds
open Trace

variable {σ τ : Type}

/-- An answer to the request for a report whose entries all refer to strings. -/
def Lists (reply : Except Failure Document) (references : List String) : Prop :=
  ∃ document entries, reply = .ok document ∧
    document.get? "MetricValues" = some (.array entries) ∧
    entries.map referenceOf? = references.map some

namespace Lookup

variable {inv : σ → Prop} {inv' : τ → Prop} {input : String} {paths : List String}

theorem names_of_lists (l : Lookup σ) (plain : '#' ∉ input.toList) {references : List String}
    (lists : Lists (l.reply (l.reportPath input) .report) references) :
    l.Names input (.ok (references.map stripFragment).eraseDups) := by
  obtain ⟨document, entries, replied, values, named⟩ := lists
  have single : ¬ hasFragment input = true := by simpa [hasFragment] using plain
  rw [Names, if_neg single, replied]
  exact .of_references values named

theorem reports_of_completes {l : Lookup σ} {run : Outcome Event Failure σ Unit}
    (completes : l.Completes input paths run) :
    reports run.trace = paths.filterMap fun path => (l.answer path).toOption := by
  have found := congrArg (List.filterMap Except.toOption) completes.reported
  rw [List.filterMap_map, List.filterMap_map] at found
  exact List.filterMap_some.symm.trans found

theorem properties_of_answers (l : Lookup σ) {made : List Report}
    (answers : made.map Except.ok = paths.map l.answer) : made.map Report.property = paths := by
  induction paths generalizing made with
  | nil => simpa using answers
  | cons path rest ih =>
      cases made with
      | nil => cases answers
      | cons r others =>
          rw [List.map_cons, List.map_cons, List.cons.injEq] at answers
          rw [List.map_cons, (l.shape_of_answer answers.1.symm).1, ih answers.2]

/-- A report of some references, to properties whose thresholds are all null. -/
def listing (references : List String) : Source
  | _, .report => pure (.object [("MetricValues", .array
      (references.map fun reference => .object [("MetricProperty", .string reference)]))])
  | _, .attributes => pure (.object (("UnitModifier", .number (.integer 0)) ::
      Threshold.all.map fun threshold => (threshold.key, .null)))

theorem lists_listing (references : List String) (path : String) :
    Lists (listing references path .report ()).result references := by
  refine ⟨_, _, rfl, rfl, ?_⟩
  rw [List.map_map]
  rfl

end Lookup
end SensorThresholds
