import SensorThresholds.Proofs.InOrder
import SensorThresholds.Proofs.Script
import Mathlib.Data.List.Forall2

/-!
What a lookup reads of its documents. Two sources whose documents agree on that make the same run:
the same is asked for, handed over and written, and the run ends in the same way. Only the warnings
about the state of a sensor may differ.
-/

namespace SensorThresholds
open Trace

variable {σ α β : Type}

/-- What a tree holds under a key, where null is nothing. -/
def Json.value? {ν : Type} (tree : Json ν) (key : String) : Option (Json ν) :=
  match tree.field key with
  | .present value => some value
  | .absent | .null => none

/-- Two lists of entries have one length, and entries at one place refer to the same. -/
def EntriesAgree : List Document → List Document → Prop :=
  List.Forall₂ fun entry other => entry.value? "MetricProperty" = other.value? "MetricProperty"

/-- The values of a report are the same, or lists that agree. -/
inductive ValuesAgree : Option Document → Option Document → Prop where
  | same (values : Option Document) : ValuesAgree values values
  | lists {entries others : List Document} (each : EntriesAgree entries others) :
      ValuesAgree (some (.array entries)) (some (.array others))

/-- The members of an attributes document that matter. -/
def attributeKeys : List String :=
  "UnitModifier" :: "ReadingUnits" :: Threshold.all.map Threshold.key

/-- Two documents differ at most in what is not read of them. -/
def Document.Agree (document other : Document) : Resource → Prop
  | .report => document.isObject = other.isObject ∧
      ValuesAgree (document.value? "MetricValues") (other.value? "MetricValues")
  | .attributes => document.isObject = other.isObject ∧
      ∀ key ∈ attributeKeys, document.get? key = other.get? key

/-- The state and the type of a sensor do not matter. -/
theorem Document.agree_of_get? {document other : Document}
    (shape : document.isObject = other.isObject)
    (same : ∀ key, key ≠ "CurrentState" → key ≠ "@odata.type" →
      document.get? key = other.get? key) (resource : Resource) :
    document.Agree other resource := by
  cases resource with
  | report =>
      refine ⟨shape, ?_⟩
      simp only [Json.value?, Json.field, same "MetricValues" (by decide) (by decide)]
      exact .same _
  | attributes =>
      have others : ∀ key ∈ attributeKeys, key ≠ "CurrentState" ∧ key ≠ "@odata.type" := by decide
      exact ⟨shape, fun key member => same key (others key member).1 (others key member).2⟩

/-- Two answers are the same failure, or documents that agree. -/
inductive AnswersAgree (resource : Resource) :
    Except Failure Document → Except Failure Document → Prop where
  | failed (failure : Failure) : AnswersAgree resource (.error failure) (.error failure)
  | answered {document other : Document} (agree : document.Agree other resource) :
      AnswersAgree resource (.ok document) (.ok other)

def Source.Agree (source other : Source) : Prop :=
  ∀ path resource,
    AnswersAgree resource (source path resource ()).result (other path resource ()).result

namespace Event

/-- What a source does of its own. -/
def isOfSource : Event → Bool
  | .request _ => true
  | .log entry => entry.origin == .source
  | _ => false

/-- A warning that a sensor does not know its state. -/
def isStateWarning : Event → Bool
  | .log entry => entry.origin == .lookup && entry.level == .warn &&
      "CurrentState of ".toList.isPrefixOf entry.text.toList
  | _ => false

/-- What may differ between two runs that read the same. -/
def isAside (event : Event) : Bool := event.isOfSource || event.isStateWarning

theorem isOfSource_within (target : String) (event : Event) :
    (event.within target).isOfSource = event.isOfSource := by
  cases event <;> rfl

theorem isStateWarning_within (target : String) (event : Event) :
    (event.within target).isStateWarning = event.isStateWarning := by
  cases event <;> rfl

theorem isAside_within (target : String) (event : Event) :
    (event.within target).isAside = event.isAside := by
  cases event <;> rfl

/-- Only requests and the log are left aside. -/
theorem aside_cases {event : Event} (aside : event.isAside = true) :
    (∃ r, event = .request r) ∨ ∃ entry, event = .log entry := by
  cases event with
  | request r => exact .inl ⟨r, rfl⟩
  | log entry => exact .inr ⟨entry, rfl⟩
  | _ => cases aside

end Event

/-- A class of events that has the warnings about states in it, and does not tell targets apart. -/
structure Disregards (dropped : Event → Bool) : Prop where
  warning : ∀ event, event.isStateWarning = true → dropped event = true
  within : ∀ target event, dropped (event.within target) = dropped event

/-- From every state the computations end in the same way, and but for dropped events the same is
seen of them. -/
def Traced.SameBut (dropped : Event → Bool) (x y : Action σ α) : Prop :=
  ∀ s, (x s).result = (y s).result ∧ (x s).state = (y s).state ∧
    (x s).trace.filter (!dropped ·) = (y s).trace.filter (!dropped ·)

namespace Traced.SameBut

variable {dropped : Event → Bool} {x y : Action σ α} {f g : α → Action σ β}

theorem refl (x : Action σ α) : SameBut dropped x x := fun _ => ⟨rfl, rfl, rfl⟩

theorem bind (first : SameBut dropped x y) (second : ∀ a, SameBut dropped (f a) (g a)) :
    SameBut dropped (x >>= f) (y >>= g) := by
  intro s
  have same := first s
  rcases ran : x s with ⟨trace, s', result⟩
  rcases ran' : y s with ⟨trace', s'', result'⟩
  rw [ran, ran'] at same
  obtain ⟨rfl, rfl, seen⟩ := same
  cases result with
  | error failure =>
      rw [bind_of_error ran, bind_of_error ran']
      exact ⟨rfl, rfl, seen⟩
  | ok a =>
      obtain ⟨ended, kept, later⟩ := second a s'
      rw [bind_of_ok ran, bind_of_ok ran']
      refine ⟨ended, kept, ?_⟩
      rw [List.filter_append, List.filter_append, seen, later]

theorem within (disregards : Disregards dropped) (target : String) (plain : SameBut dropped x y) :
    SameBut dropped (x.relabel (Event.within target) id) (y.relabel (Event.within target) id) := by
  intro s
  obtain ⟨ended, kept, seen⟩ := plain s
  have through (trace : List Event) : (trace.map (Event.within target)).filter (!dropped ·) =
      (trace.filter (!dropped ·)).map (Event.within target) := by
    rw [List.filter_map]
    congr 2
    funext event
    exact congrArg (!·) (disregards.within target event)
  refine ⟨congrArg (Except.mapError id) ended, kept, ?_⟩
  rw [relabel_apply, relabel_apply, through, through, seen]

end Traced.SameBut

/-- The answers of two sources agree, and but for dropped events they do the same of their own. -/
structure Source.AgreeBut (dropped : Event → Bool) (source other : Source) : Prop where
  answers : source.Agree other
  events : ∀ path resource,
    ((source path resource ()).trace.map SourceEvent.toEvent).filter (!dropped ·) =
      ((other path resource ()).trace.map SourceEvent.toEvent).filter (!dropped ·)

namespace Trace

variable {first second : List Event}

theorem written_filter {keep : Event → Bool}
    (silent : ∀ event, keep event = false → written [event] = []) (trace : List Event) :
    written (trace.filter keep) = written trace := by
  induction trace with
  | nil => rfl
  | cons event rest ih =>
      have apart : written (event :: rest) = written [event] ++ written rest :=
        written_append [event] rest
      rw [apart, ← ih, List.filter_cons]
      cases kept : keep event with
      | true => exact written_append [event] _
      | false =>
          rw [silent event kept]
          rfl

/-- Whatever is read off neither requests nor the log is the same. -/
theorem filterMap_of_same {read : Event → Option β}
    (same : first.filter (!·.isAside) = second.filter (!·.isAside))
    (request : ∀ r, read (.request r) = none) (log : ∀ entry, read (.log entry) = none) :
    first.filterMap read = second.filterMap read := by
  have through (trace : List Event) :
      (trace.filter (!·.isAside)).filterMap read = trace.filterMap read := by
    apply filterMap_filter_eq
    intro event dropped
    rcases Event.aside_cases (by simpa using dropped) with ⟨r, rfl⟩ | ⟨entry, rfl⟩
    · exact request r
    · exact log entry
  rw [← through first, same, through]

theorem written_of_same (same : first.filter (!·.isAside) = second.filter (!·.isAside)) :
    written first = written second := by
  have through (trace : List Event) : written (trace.filter (!·.isAside)) = written trace := by
    apply written_filter
    intro event dropped
    rcases Event.aside_cases (by simpa using dropped) with ⟨r, rfl⟩ | ⟨entry, rfl⟩ <;> rfl
  rw [← through first, same, through]

end Trace

theorem aside_disregards : Disregards Event.isAside where
  warning _ warns := Bool.or_eq_true_iff.mpr (.inr warns)
  within := Event.isAside_within

theorem stateWarning_disregards : Disregards Event.isStateWarning where
  warning _ warns := warns
  within := Event.isStateWarning_within

namespace Source.Agree

variable {source other : Source}

/-- All that a source does of its own is left aside. -/
theorem butAside (agree : source.Agree other) : source.AgreeBut Event.isAside other where
  answers := agree
  events path resource := by
    have none (trace : List SourceEvent) :
        (trace.map SourceEvent.toEvent).filter (!·.isAside) = [] := by
      rw [List.filter_eq_nil_iff]
      intro event member
      obtain ⟨original, -, rfl⟩ := List.mem_map.mp member
      cases original <;> simp [SourceEvent.toEvent, Event.isAside, Event.isOfSource, LogEntry.plain]
    rw [none, none]

theorem butWarnings (agree : source.Agree other)
    (alike : ∀ path resource, (source path resource ()).trace = (other path resource ()).trace) :
    source.AgreeBut Event.isStateWarning other where
  answers := agree
  events path resource := by rw [alike]

end Source.Agree

theorem Attributes.ofDocument_agree {document other : Document}
    (agree : document.Agree other .attributes) : ofDocument document = ofDocument other := by
  have held : ∀ key ∈ attributeKeys, document.get? key = other.get? key := agree.2
  have threshold (t : Threshold) : document.get? t.key = other.get? t.key :=
    held _ (List.mem_cons_of_mem _ (List.mem_cons_of_mem _ (List.mem_map_of_mem t.mem_all)))
  have modifier : readModifier document = readModifier other := by
    simp only [readModifier, Json.field, held "UnitModifier" (by decide)]
  have raw : readThreshold document = readThreshold other := by
    funext t
    simp only [readThreshold, Json.field, threshold t]
  rw [ofDocument, ofDocument, modifier, raw, held "ReadingUnits" (by decide)]

theorem isStateWarning_of_unknown {document : Document} {warning : String}
    (unknown : unknownStateWarning? document = some warning) :
    (Event.log (.plain .lookup .warn warning)).isStateWarning = true := by
  unfold unknownStateWarning? at unknown
  split at unknown
  · obtain rfl := Option.some.inj unknown
    simp only [Event.isStateWarning, LogEntry.plain, beq_self_eq_true, Bool.true_and,
      List.isPrefixOf_iff_prefix, String.toList_append, List.append_assoc]
    exact List.prefix_append _ _
  · cases unknown

namespace Lookup

variable {dropped : Event → Bool} {source other : Source} {reportBase : String} {sink : Sink σ}

/-- Of an entry nothing is read but what it holds under `MetricProperty`. -/
theorem collect_cons (targets : TargetSet) (index : Nat) (entry : Document)
    (rest : List Document) :
    (collect targets index (entry :: rest) : Action σ TargetSet) =
      match entry.value? "MetricProperty" with
      | none => Traced.fail (.missingMetricProperty index)
      | some (.string property) =>
        match targets.insert property with
        | (true, targets) => collect targets (index + 1) rest
        | (false, targets) => do
          log .debug s!"Skipping duplicate metric property {property}"
          collect targets (index + 1) rest
      | some value => Traced.fail (.invalidMetricProperty index value) := by
  rw [collect, Json.value?]
  cases entry.field "MetricProperty" with
  | present value => cases value <;> rfl
  | _ => rfl

theorem collect_agree {entries others : List Document} (agree : EntriesAgree entries others)
    (targets : TargetSet) (index : Nat) :
    (collect targets index entries : Action σ TargetSet) = collect targets index others := by
  induction agree generalizing targets index with
  | nil => rfl
  | cons same _ ih => simp only [collect_cons, same, ih]

theorem targetsOf_eq (document : Document) :
    (targetsOf document : Action σ TargetSet) =
      if document.isObject then
        match document.value? "MetricValues" with
        | none => pure .empty
        | some (.array entries) => collect .empty 0 entries
        | some _ => Traced.fail .metricValuesNotList
      else Traced.fail (.notAnObject .report) := by
  unfold targetsOf Json.value?
  cases document.field "MetricValues" with
  | present value => cases value <;> rfl
  | _ => rfl

theorem targetsOf_agree {document document' : Document}
    (agree : document.Agree document' .report) :
    (targetsOf document : Action σ TargetSet) = targetsOf document' := by
  obtain ⟨shape, values⟩ := agree
  rw [targetsOf_eq, targetsOf_eq, shape]
  generalize document.value? "MetricValues" = held at values
  generalize document'.value? "MetricValues" = held' at values
  cases values with
  | same => rfl
  | lists each => simp only [collect_agree each]

theorem warnOfState_sameBut (disregards : Disregards dropped) (document document' : Document) :
    Traced.SameBut dropped (warnOfState document : Action σ Unit) (warnOfState document') := by
  have quiet (document : Document) (s : σ) : (warnOfState document s).result = .ok () ∧
      (warnOfState document s).state = s ∧
      (warnOfState document s).trace.filter (!dropped ·) = [] := by
    unfold warnOfState
    cases unknown : unknownStateWarning? document with
    | none => exact ⟨rfl, rfl, rfl⟩
    | some warning =>
        have warns := disregards.warning _ (isStateWarning_of_unknown unknown)
        refine ⟨rfl, rfl, List.filter_cons_of_neg ?_⟩
        simp [warns]
  intro s
  obtain ⟨ended, kept, seen⟩ := quiet document s
  obtain ⟨ended', kept', seen'⟩ := quiet document' s
  exact ⟨ended.trans ended'.symm, kept.trans kept'.symm, seen.trans seen'.symm⟩

theorem reportOf_sameBut (disregards : Disregards dropped) (path : String)
    {document document' : Document} (agree : document.Agree document' .attributes) :
    Traced.SameBut dropped (reportOf path document : Action σ Report) (reportOf path document') := by
  simp only [reportOf, agree.1, Attributes.ofDocument_agree agree]
  split
  · exact (warnOfState_sameBut disregards document document').bind fun _ => .refl _
  · exact .refl _

/-- Two computations that treat documents alike go on alike after two answers that agree. -/
theorem fetch_sameBut (agree : source.AgreeBut dropped other) (path : String)
    (resource : Resource) {f g : Document → Action σ α}
    (next : ∀ document document', document.Agree document' resource →
      Traced.SameBut dropped (f document) (g document')) :
    Traced.SameBut dropped (fetch ⟨source, reportBase, sink⟩ path resource >>= f)
      (fetch ⟨other, reportBase, sink⟩ path resource >>= g) := by
  intro s
  have asked := fetch_apply ⟨source, reportBase, sink⟩ path resource s
  have asked' := fetch_apply ⟨other, reportBase, sink⟩ path resource s
  have seen : (.fetch path resource ::
      (source path resource ()).trace.map SourceEvent.toEvent).filter (!dropped ·) =
      (.fetch path resource ::
        (other path resource ()).trace.map SourceEvent.toEvent).filter (!dropped ·) := by
    rw [List.filter_cons, List.filter_cons, agree.events path resource]
  have answers : AnswersAgree resource (reply ⟨source, reportBase, sink⟩ path resource)
      (reply ⟨other, reportBase, sink⟩ path resource) := agree.answers path resource
  -- Nothing but the answers is known of the two sources.
  generalize reply ⟨source, reportBase, sink⟩ path resource = answer at asked answers
  generalize reply ⟨other, reportBase, sink⟩ path resource = answer' at asked' answers
  cases answers with
  | failed failure =>
      rw [Traced.bind_of_error asked, Traced.bind_of_error asked']
      exact ⟨rfl, rfl, seen⟩
  | answered same =>
      obtain ⟨ended, kept, later⟩ := next _ _ same s
      rw [Traced.bind_of_ok asked, Traced.bind_of_ok asked']
      refine ⟨ended, kept, ?_⟩
      rw [List.filter_append, List.filter_append, seen, later]

theorem resolve_sameBut (agree : source.AgreeBut dropped other) (input : String) :
    Traced.SameBut dropped (resolve ⟨source, reportBase, sink⟩ input)
      (resolve ⟨other, reportBase, sink⟩ input) := by
  unfold resolve
  split
  · exact .refl _
  · apply Traced.SameBut.bind (.refl _)
    intro _
    apply fetch_sameBut agree
    intro document document' same
    rw [targetsOf_agree same]
    exact .refl _

theorem fetchAndReport_sameBut (disregards : Disregards dropped)
    (agree : source.AgreeBut dropped other) (reference : String) :
    Traced.SameBut dropped (fetchAndReport ⟨source, reportBase, sink⟩ reference)
      (fetchAndReport ⟨other, reportBase, sink⟩ reference) := by
  apply Traced.SameBut.within disregards
  apply Traced.SameBut.bind (.refl _)
  intro _
  apply fetch_sameBut agree
  intro document document' same
  exact (reportOf_sameBut disregards _ same).bind fun _ => .refl _

theorem fetchAll_sameBut (disregards : Disregards dropped) (agree : source.AgreeBut dropped other)
    (targets : List String) :
    Traced.SameBut dropped (fetchAll ⟨source, reportBase, sink⟩ targets)
      (fetchAll ⟨other, reportBase, sink⟩ targets) := by
  induction targets with
  | nil => exact .refl _
  | cons target rest ih => exact (fetchAndReport_sameBut disregards agree target).bind fun _ => ih

theorem run_sameBut (disregards : Disregards dropped) (agree : source.AgreeBut dropped other)
    (input : String) :
    Traced.SameBut dropped (run ⟨source, reportBase, sink⟩ input)
      (run ⟨other, reportBase, sink⟩ input) := by
  apply (resolve_sameBut agree input).bind
  intro targets
  apply Traced.SameBut.bind (.refl _)
  intro _
  apply Traced.SameBut.bind (.refl _)
  intro _
  exact (fetchAll_sameBut disregards agree _).bind fun _ => .refl _

/-- Only the members that matter have a say in a run: in its result, in what it asks for, hands over
and writes, and in whatever else is seen of it but for the warnings about states. -/
theorem run_reads_members (source other : Source) (agree : source.Agree other)
    (reportBase input : String) (sink : Sink σ) (s : σ) :
    let first := run ⟨source, reportBase, sink⟩ input s
    let second := run ⟨other, reportBase, sink⟩ input s
    first.result = second.result ∧ first.state = second.state ∧
      fetches first.trace = fetches second.trace ∧ notes first.trace = notes second.trace ∧
      reports first.trace = reports second.trace ∧ written first.trace = written second.trace ∧
      first.trace.filter (!·.isAside) = second.trace.filter (!·.isAside) ∧
      ((∀ path resource, (source path resource ()).trace = (other path resource ()).trace) →
        first.trace.filter (!·.isStateWarning) = second.trace.filter (!·.isStateWarning)) := by
  intro first second
  have same : Traced.SameBut Event.isAside (run ⟨source, reportBase, sink⟩ input)
      (run ⟨other, reportBase, sink⟩ input) := run_sameBut aside_disregards agree.butAside input
  obtain ⟨returned, kept, seen⟩ := same s
  refine ⟨returned, kept, filterMap_of_same seen (fun _ => rfl) fun _ => rfl,
    filterMap_of_same seen (fun _ => rfl) fun _ => rfl,
    filterMap_of_same seen (fun _ => rfl) fun _ => rfl, written_of_same seen, seen, ?_⟩
  intro alike
  exact (run_sameBut stateWarning_disregards (agree.butWarnings alike) input s).2.2

/-- A report of one sensor without thresholds, whose document has a state and a type. -/
def stateSource (state type : Document) : Source
  | _, .report =>
    pure (.object [("MetricValues", .array [.object [("MetricProperty", .string "/a#x")]])])
  | _, .attributes => pure (.object (("CurrentState", state) :: ("@odata.type", type) ::
      ("UnitModifier", .number (.integer 0)) ::
        Threshold.all.map fun threshold => (threshold.key, .null)))

theorem run_reads_members_unknown :
    let unknown := stateSource (.string "Unknown") (.bool true)
    let plain := stateSource .null (.string "Sensor")
    unknown.Agree plain ∧
      (unknown "/a" .attributes ()).result.toOption.bind unknownStateWarning? =
        some "CurrentState of <no @odata.type> is Unknown, thresholds may not be meaningful" ∧
      (run ⟨unknown, "/reports/", .text⟩ "Power" .unlimited).result =
        (run ⟨plain, "/reports/", .text⟩ "Power" .unlimited).result ∧
      written (run ⟨unknown, "/reports/", .text⟩ "Power" .unlimited).trace =
        written (run ⟨plain, "/reports/", .text⟩ "Power" .unlimited).trace := by
  intro unknown plain
  have agree : unknown.Agree plain := by
    intro path resource
    cases resource with
    | report => exact .answered ⟨rfl, .same _⟩
    | attributes =>
        refine .answered (Document.agree_of_get? ?_ ?_ .attributes)
        · rfl
        · intro key state type
          simp [Json.get?, state.symm, type.symm]
  obtain ⟨returned, -, -, -, -, shown, -⟩ :=
    run_reads_members unknown plain agree "/reports/" "Power" .text .unlimited
  exact ⟨agree, rfl, returned, shown⟩

end Lookup
end SensorThresholds
