import SensorThresholds.Proofs.FailureKinds
import SensorThresholds.Proofs.Fragments

/-!
The calls that a lookup makes of its source and of its sink, and what came of each. A lookup that
fails makes no call after the one that it fails over: the kind of the failure tells which call that
was, and the failure itself what came of it.
-/

namespace SensorThresholds
open Trace

variable {σ α β : Type}

/-- A call of the sink or of the source, and what came of it. -/
inductive Called where
  | told (result : Except OutputFault Unit)
  | asked (path : String) (resource : Resource) (reply : Except Failure Document)

/-- A reply that there is no going on from: no JSON, or a document that makes no targets or no
report. -/
inductive Offends (path : String) : Resource → Except Failure Document → Prop where
  | notJson (resource named : Resource) (url : String) :
      Offends path resource (.error (.notJson named url))
  | report {document : Document} {failure : Failure}
      (resolves : Resolves (.ok document) (.error failure)) : Offends path .report (.ok document)
  | attributes {document : Document} {failure : Failure}
      (yields : Yields path document (.error failure)) : Offends path .attributes (.ok document)

namespace Called

def isAsked : Called → Bool
  | asked .. => true
  | told _ => false

/-- What the source is asked for. -/
def fetch? : Called → Option (String × Resource)
  | asked path resource _ => some (path, resource)
  | told _ => none

/-- A call that the lookup goes on after. -/
def Fine : Called → Prop
  | told result => result = .ok ()
  | asked path resource reply =>
      (∃ document, reply = .ok document) ∧ ¬ Offends path resource reply

/-- A call that the lookup fails over, with this failure. -/
inductive Explains : Called → Failure → Prop where
  | told (fault : OutputFault) : Explains (told (.error fault)) (.output fault)
  | unanswered (path : String) (resource : Resource) (failure : Failure) :
      Explains (asked path resource (.error failure)) failure
  | report {path : String} {document : Document} {failure : Failure}
      (resolves : Resolves (.ok document) (.error failure)) :
      Explains (asked path .report (.ok document)) failure
  | attributes {path : String} {document : Document} {failure : Failure}
      (yields : Yields path document (.error failure)) :
      Explains (asked path .attributes (.ok document)) failure

end Called

namespace Lookup

/-- The calls that a trace tells of, from a state of the sink on. -/
def calls (l : Lookup σ) (s : σ) : List Event → List Called
  | [] => []
  | .note line :: rest => .told (l.sink.note line s).result :: calls l (l.sink.note line s).state rest
  | .report r :: rest => .told (l.sink.report r s).result :: calls l (l.sink.report r s).state rest
  | .fetch path resource :: rest => .asked path resource (l.reply path resource) :: calls l s rest
  | _ :: rest => calls l s rest

/-- The state in which these calls leave the sink. -/
def after (l : Lookup σ) (s : σ) : List Event → σ
  | [] => s
  | .note line :: rest => after l (l.sink.note line s).state rest
  | .report r :: rest => after l (l.sink.report r s).state rest
  | _ :: rest => after l s rest

theorem calls_append (l : Lookup σ) (s : σ) (first second : List Event) :
    l.calls s (first ++ second) = l.calls s first ++ l.calls (l.after s first) second := by
  induction first generalizing s with
  | nil => rfl
  | cons event rest ih => cases event <;> simp [calls, after, ih]

theorem after_append (l : Lookup σ) (s : σ) (first second : List Event) :
    l.after s (first ++ second) = l.after (l.after s first) second := by
  induction first generalizing s with
  | nil => rfl
  | cons event rest ih => cases event <;> simp [after, ih]

/-- Only steps are calls. -/
theorem calls_of_steps (l : Lookup σ) (s : σ) {trace : List Event} (quiet : steps trace = []) :
    l.calls s trace = [] ∧ l.after s trace = s := by
  induction trace with
  | nil => exact ⟨rfl, rfl⟩
  | cons event rest ih =>
      cases event <;> simp_all [steps, Event.isStep, calls, after]

theorem fetches_calls (l : Lookup σ) (s : σ) (trace : List Event) :
    (l.calls s trace).filterMap Called.fetch? = fetches trace := by
  induction trace generalizing s with
  | nil => rfl
  | cons event rest ih =>
      cases event <;> simp [calls, Called.fetch?, fetches, Event.fetch?] <;> exact ih _

theorem calls_within (l : Lookup σ) (s : σ) (target : String) (trace : List Event) :
    l.calls s (trace.map (Event.within target)) = l.calls s trace ∧
      l.after s (trace.map (Event.within target)) = l.after s trace := by
  induction trace generalizing s with
  | nil => exact ⟨rfl, rfl⟩
  | cons event rest ih => cases event <;> simp [Event.within, calls, after, ih]

theorem calls_source (l : Lookup σ) (s : σ) (trace : List SourceEvent) :
    l.calls s (trace.map SourceEvent.toEvent) = [] ∧
      l.after s (trace.map SourceEvent.toEvent) = s := by
  induction trace with
  | nil => exact ⟨rfl, rfl⟩
  | cons event rest ih => cases event <;> simpa [SourceEvent.toEvent, calls, after] using ih

/-- A request is one call, whatever the source does for it. -/
theorem calls_fetch (l : Lookup σ) (path : String) (resource : Resource) (s : σ)
    (rest : List Event) :
    l.calls s (.fetch path resource ::
        (l.source path resource ()).trace.map SourceEvent.toEvent ++ rest) =
      .asked path resource (l.reply path resource) :: l.calls s rest ∧
    l.after s (.fetch path resource ::
        (l.source path resource ()).trace.map SourceEvent.toEvent ++ rest) = l.after s rest := by
  obtain ⟨silent, same⟩ := l.calls_source s (l.source path resource ()).trace
  constructor
  · rw [List.cons_append, calls, calls_append, silent, same, List.nil_append]
  · show l.after s ((l.source path resource ()).trace.map SourceEvent.toEvent ++ rest) = _
    rw [after_append, same]

end Lookup

/-- The failure is that of the last call, and all the calls before it went well. -/
def Called.EndsOver (made : List Called) (failure : Failure) : Prop :=
  ∃ earlier last, made = earlier ++ [last] ∧ (∀ call ∈ earlier, call.Fine) ∧ last.Explains failure

theorem Called.Explains.endsOver {call : Called} {failure : Failure}
    (explains : call.Explains failure) : EndsOver [call] failure :=
  ⟨[], call, rfl, List.forall_mem_nil _, explains⟩

/-- The computation goes on after calls that went well, in the state in which they left the sink, and
fails over no call but its last. -/
structure Traced.Accounts (l : Lookup σ) (x : Action σ α) : Prop where
  goes : ∀ s a, (x s).result = .ok a →
    (∀ call ∈ l.calls s (x s).trace, call.Fine) ∧ l.after s (x s).trace = (x s).state
  stops : ∀ s failure, (x s).result = .error failure →
    Called.EndsOver (l.calls s (x s).trace) failure

namespace Traced.Accounts

variable {l : Lookup σ} {x : Action σ α} {f : α → Action σ β}

theorem pure (a : α) : Accounts l (pure a : Action σ α) where
  goes _ _ _ := ⟨List.forall_mem_nil _, rfl⟩
  stops _ _ failed := by cases failed

theorem log (level : Level) (text : String) : Accounts l (Lookup.log level text) where
  goes _ _ _ := ⟨List.forall_mem_nil _, rfl⟩
  stops _ _ failed := by cases failed

theorem bind (first : Accounts l x) (second : ∀ a, Accounts l (f a)) : Accounts l (x >>= f) where
  goes s b ended := by
    obtain ⟨a, went, later⟩ := bind_result_eq_ok_iff.mp ended
    obtain ⟨fine, left⟩ := first.goes s a went
    obtain ⟨fine', left'⟩ := (second a).goes _ b later
    rw [bind_of_ok (show x s = ⟨(x s).trace, (x s).state, .ok a⟩ by rw [← went])]
    rw [Lookup.calls_append, Lookup.after_append, left]
    refine ⟨?_, left'⟩
    intro call member
    rcases List.mem_append.mp member with member | member
    · exact fine call member
    · exact fine' call member
  stops s failure ended := by
    cases went : (x s).result with
    | error other =>
        rw [bind_of_error (show x s = ⟨(x s).trace, (x s).state, .error other⟩ by rw [← went])]
          at ended ⊢
        cases ended
        exact first.stops s failure went
    | ok a =>
        rw [bind_of_ok (show x s = ⟨(x s).trace, (x s).state, .ok a⟩ by rw [← went])] at ended ⊢
        obtain ⟨fine, left⟩ := first.goes s a went
        obtain ⟨earlier, last, made, fine', explains⟩ := (second a).stops _ failure ended
        refine ⟨l.calls s (x s).trace ++ earlier, last, ?_, ?_, explains⟩
        · rw [Lookup.calls_append, left, made, List.append_assoc]
        · intro call member
          rcases List.mem_append.mp member with member | member
          · exact fine call member
          · exact fine' call member

theorem within (target : String) (accounts : Accounts l x) :
    Accounts l (x.relabel (Event.within target) id) := by
  constructor
  · intro s a ended
    rw [relabel_id_apply] at ended ⊢
    obtain ⟨calls, state⟩ := l.calls_within s target (x s).trace
    rw [calls, state]
    exact accounts.goes s a ended
  · intro s failure ended
    rw [relabel_id_apply] at ended ⊢
    rw [(l.calls_within s target (x s).trace).1]
    exact accounts.stops s failure ended

/-- A call of the sink that is announced. -/
theorem call {event : Event} {made : SinkAction σ Unit}
    (told : ∀ s rest, l.calls s (event :: rest) =
      .told (made s).result :: l.calls (made s).state rest)
    (left : ∀ s rest, l.after s (event :: rest) = l.after (made s).state rest) :
    Accounts l (do
      Traced.emit event
      made.relabel SinkEvent.toEvent Failure.output) := by
  have silent (s : σ) := l.calls_of_steps (made s).state (steps_sink (made s).trace)
  constructor
  · intro s a ended
    rw [bind_of_ok (emit_apply event s), relabel_apply] at ended ⊢
    rw [List.singleton_append, told, left, (silent s).1, (silent s).2]
    cases result : (made s).result with
    | error fault => simp [result, Except.mapError] at ended
    | ok _ => exact ⟨fun call member => by rw [List.mem_singleton.mp member]; rfl, rfl⟩
  · intro s failure ended
    rw [bind_of_ok (emit_apply event s), relabel_apply] at ended ⊢
    rw [List.singleton_append, told, (silent s).1]
    cases result : (made s).result with
    | ok _ => simp [result, Except.mapError] at ended
    | error fault =>
        obtain rfl : Failure.output fault = failure := by
          simpa [result, Except.mapError] using ended
        exact (Called.Explains.told fault).endsOver

/-- A request, and the judgement on the document that comes back. The judgement is silent, and the
document offends exactly if it fails. -/
theorem fetch (path : String) (resource : Resource) {judge : Document → Action σ α}
    (judges : ∀ document s, ∃ result : Except Failure α,
      Follows (· = s) (fun _ => False) (judge document) [] result ∧
        (∀ a, result = .ok a → ¬ Offends path resource (.ok document)) ∧
        ∀ failure, result = .error failure →
          (Called.asked path resource (.ok document)).Explains failure) :
    Accounts l (l.fetch path resource >>= judge) := by
  have asked := l.calls_fetch path resource
  have fetched (s : σ) := l.fetch_apply path resource s
  cases replied : l.reply path resource with
  | error failure =>
      simp only [replied] at asked fetched
      constructor
      · intro s a ended
        rw [bind_of_error (fetched s)] at ended
        cases ended
      · intro s other ended
        rw [bind_of_error (fetched s)] at ended ⊢
        cases ended
        have told := (asked s []).1
        rw [List.append_nil] at told
        dsimp only
        rw [told]
        exact (Called.Explains.unanswered path resource failure).endsOver
  | ok document =>
      simp only [replied] at asked fetched
      constructor
      · intro s a ended
        obtain ⟨result, follows, fine, -⟩ := judges document s
        obtain ⟨quiet, same, kept⟩ := follows.complete rfl
        rw [bind_of_ok (fetched s)] at ended ⊢
        obtain ⟨told, left⟩ := asked s (judge document s).trace
        obtain ⟨silent, stays⟩ := l.calls_of_steps s quiet
        rw [told, left, silent, stays, kept]
        refine ⟨?_, rfl⟩
        intro call member
        rw [List.mem_singleton.mp member]
        exact ⟨⟨document, rfl⟩, fine a (same.symm.trans ended)⟩
      · intro s failure ended
        obtain ⟨result, follows, -, explains⟩ := judges document s
        obtain ⟨quiet, same, kept⟩ := follows.complete rfl
        rw [bind_of_ok (fetched s)] at ended ⊢
        rw [(asked s _).1, (l.calls_of_steps s quiet).1]
        exact (explains failure (same.symm.trans ended)).endsOver

end Traced.Accounts

/-- A document resolves to no two things. -/
theorem Resolves.unique {reply : Except Failure Document}
    {first second : Except Failure (List String)} (resolves : Resolves reply first)
    (others : Resolves reply second) : first = second := by
  let l : Lookup Unit := ⟨fun _ _ => Traced.ofExcept reply, "", .silent⟩
  have replied : l.reply (l.reportPath "") .report = reply := by
    rw [Lookup.reply, show l.source _ _ = Traced.ofExcept reply from rfl, Traced.ofExcept_apply]
  have names {result : Except Failure (List String)} (resolves : Resolves reply result) :
      l.Names "" result := by
    rw [Lookup.Names, if_neg (by decide), replied]
    exact resolves
  exact Lookup.names_unique (names resolves) (names others)

namespace Lookup

variable (l : Lookup σ)

theorem note_accounts (line : String) : Traced.Accounts l (l.note line) :=
  .call (fun _ _ => rfl) fun _ _ => rfl

theorem report_accounts (r : Report) : Traced.Accounts l (l.report r) :=
  .call (fun _ _ => rfl) fun _ _ => rfl

theorem resolve_accounts (input : String) : Traced.Accounts l (l.resolve input) := by
  unfold resolve
  split
  · exact .pure _
  · apply (l.note_accounts _).bind
    intro _
    apply Traced.Accounts.fetch
    intro document s
    obtain ⟨result, resolves⟩ := Resolves.exists (.ok document)
    obtain ⟨ended, follows, same⟩ :
        ∃ ended, Traced.Follows (· = s) (fun _ => False) (targetsOf document) [] ended ∧ _ :=
      targetsOf_follows resolves
    refine ⟨ended, (log_follows .debug _).bind_silent follows, ?_, ?_⟩
    · rintro targets rfl offends
      cases offends with
      | report other =>
          obtain rfl := Resolves.unique resolves other
          cases same
    · rintro failure rfl
      obtain rfl : result = .error failure := same.symm
      exact .report resolves

theorem reportOf_judges (path : String) (document : Document) (s : σ) :
    ∃ result : Except Failure Report,
      Traced.Follows (· = s) (fun _ => False) (reportOf path document) [] result ∧
        (∀ r, result = .ok r → ¬ Offends path .attributes (.ok document)) ∧
        ∀ failure, result = .error failure →
          (Called.asked path .attributes (.ok document)).Explains failure := by
  refine ⟨_, reportOf_follows path document, ?_, ?_⟩
  · intro r made offends
    cases offends with
    | attributes yields =>
        rw [Report.yields_iff.mp yields] at made
        cases made
  · intro failure failed
    exact .attributes (Report.yields_iff.mpr failed)

theorem fetchAndReport_accounts (reference : String) :
    Traced.Accounts l (l.fetchAndReport reference) := by
  rw [fetchAndReport_stripFragment, fetchAndReport_eq l _ (stripFragment_stripFragment reference)]
  apply Traced.Accounts.within
  apply Traced.Accounts.within
  apply (l.note_accounts _).bind
  intro _
  apply (Traced.Accounts.fetch _ _ (reportOf_judges _)).bind
  intro r
  exact (l.report_accounts r).bind fun _ => .pure r

theorem fetchAll_accounts (targets : List String) : Traced.Accounts l (l.fetchAll targets) := by
  induction targets with
  | nil => exact .pure ()
  | cons target rest ih => exact (l.fetchAndReport_accounts target).bind fun _ => ih

theorem run_accounts (input : String) : Traced.Accounts l (l.run input) := by
  apply (l.resolve_accounts input).bind
  intro targets
  apply (Traced.Accounts.log .debug _).bind
  intro _
  have warned : Traced.Accounts l (warnOfNone input targets) := by
    unfold warnOfNone
    split
    · exact .log .warn _
    · exact .pure ()
  apply warned.bind
  intro _
  exact (l.fetchAll_accounts _).bind fun _ => l.note_accounts _

theorem reply_of_mem_calls {s : σ} {trace : List Event} {path : String} {resource : Resource}
    {reply : Except Failure Document} (member : .asked path resource reply ∈ l.calls s trace) :
    reply = l.reply path resource := by
  induction trace generalizing s with
  | nil => cases member
  | cons event rest ih =>
      cases event with
      | note line => exact ih (by simpa [calls] using member)
      | report r => exact ih (by simpa [calls] using member)
      | fetch other kind =>
          rcases List.mem_cons.mp member with same | later
          · cases same
            rfl
          · exact ih later
      | _ => exact ih member

end Lookup

def Failure.resource? : Failure → Option Resource
  | status resource .. | request resource _ | notJson resource _ | notAnObject resource =>
    some resource
  | _ => none

namespace Called

variable {made earlier : List Called} {call : Called} {failure : Failure} {input : String}

theorem EndsOver.of_told (ends : EndsOver made failure) {fault : OutputFault}
    (member : told (.error fault) ∈ made) : failure = .output fault := by
  obtain ⟨earlier, last, rfl, fine, explains⟩ := ends
  rcases List.mem_append.mp member with early | late
  · cases fine _ early
  · rw [← List.mem_singleton.mp late] at explains
    cases explains
    rfl

theorem EndsOver.of_asked (ends : EndsOver made failure) {path : String} {resource : Resource}
    {other : Failure} (member : asked path resource (.error other) ∈ made) : failure = other := by
  obtain ⟨earlier, last, rfl, fine, explains⟩ := ends
  rcases List.mem_append.mp member with early | late
  · obtain ⟨⟨document, replied⟩, -⟩ := fine _ early
    cases replied
  · rw [← List.mem_singleton.mp late] at explains
    cases explains
    rfl

/-- Over which call a lookup failed decides the kind of the failure, where a source names what it
was asked for. -/
theorem Explains.kinds {source : Source} (names : source.NamesResource)
    (explains : call.Explains failure)
    (replied : ∀ path resource reply, call = .asked path resource reply →
      reply = (source path resource ()).result) :
    (failure.kind = .output ∧ ∃ fault, call = .told (.error fault)) ∨
      (failure.kind = .transport ∧ ∃ path resource, call = .asked path resource (.error failure) ∧
        failure.resource? = some resource) ∨
      (failure.kind = .format ∧ ∃ path resource reply, call = .asked path resource reply ∧
        Offends path resource reply) := by
  cases explains with
  | told fault => exact .inl ⟨rfl, fault, rfl⟩
  | unanswered path resource failure =>
      have named : failure.IsOfRequest resource :=
        names path resource () failure (replied path resource _ rfl).symm
      cases failure with
      | status other url code =>
          exact .inr (.inl ⟨rfl, path, resource, rfl, congrArg some named⟩)
      | request other url => exact .inr (.inl ⟨rfl, path, resource, rfl, congrArg some named⟩)
      | notJson other url =>
          exact .inr (.inr ⟨rfl, path, resource, _, rfl, .notJson resource other url⟩)
      | _ => exact named.elim
  | report resolves =>
      exact .inr (.inr ⟨by cases resolves <;> rfl, _, _, _, rfl, .report resolves⟩)
  | attributes yields =>
      exact .inr (.inr ⟨by cases yields <;> rfl, _, _, _, rfl, .attributes yields⟩)

theorem length_filter_isAsked (made : List Called) :
    (made.filter isAsked).length = (made.filterMap fetch?).length := by
  induction made with
  | nil => rfl
  | cons call rest ih =>
      cases call with
      | told result => exact ih
      | asked path resource reply => exact congrArg (· + 1) ih

/-- The last of the calls of the source. -/
def lastAsked? (made : List Called) : Option Called := (made.filter isAsked).getLast?

theorem lastAsked?_append_asked (earlier : List Called) (path : String) (resource : Resource)
    (reply : Except Failure Document) :
    lastAsked? (earlier ++ [asked path resource reply]) = some (asked path resource reply) := by
  simp [lastAsked?, isAsked]

end Called

/-- The kind of a failure tells over which call a run failed. -/
structure Failure.Locates (input : String) (made : List Called) (failure : Failure) : Prop where
  output : failure.kind = .output ↔ ∃ fault, .told (.error fault) ∈ made
  fault : ∀ fault, .told (.error fault) ∈ made → failure = .output fault
  transport : failure.kind = .transport ↔
    ∃ path resource unanswered, .asked path resource (.error unanswered) ∈ made ∧
      unanswered.kind = .transport
  unanswered : ∀ path resource unanswered, .asked path resource (.error unanswered) ∈ made →
    failure = unanswered
  /-- Only the first request of a run without a fragment is for a report. -/
  resource : failure.kind = .transport → failure.resource? =
    some (if hasFragment input = false ∧ (made.filter Called.isAsked).length = 1 then .report
      else .attributes)
  format : failure.kind = .format ↔ (∀ fault, .told (.error fault) ∉ made) ∧
    ∃ path resource reply, Called.lastAsked? made = some (.asked path resource reply) ∧
      Offends path resource reply
  /-- Nothing is called after the call that the run failed over. -/
  last : Called.EndsOver made failure

namespace Lookup

variable (l : Lookup σ)

/-- What is asked for last is the report if nothing was asked for before it. -/
theorem resource_of_fetches {input : String} {s : σ} {earlier : List (String × Resource)}
    {path : String} {resource : Resource}
    (fetched : fetches (l.run input s).trace = earlier ++ [(path, resource)]) :
    resource = if hasFragment input = false ∧ (earlier ++ [(path, resource)]).length = 1 then .report
      else .attributes := by
  obtain ⟨targets, -, part⟩ := l.run_asks input s
  rw [fetched, fetches_resolveScript] at part
  have target (list : List (String × Resource))
      (part : list ++ [(path, resource)] <+: targets.map fun path => (path, .attributes)) :
      resource = .attributes := by
    have member : (path, resource) ∈ list ++ [(path, resource)] :=
      List.mem_append_right _ List.mem_cons_self
    obtain ⟨other, -, same⟩ := List.mem_map.mp (part.subset member)
    exact (congrArg Prod.snd same).symm
  cases single : hasFragment input with
  | true =>
      rw [single] at part
      rw [if_neg (by simp)]
      exact target earlier part
  | false =>
      rw [single] at part
      cases earlier with
      | nil =>
          rw [if_pos ⟨rfl, rfl⟩]
          obtain ⟨same, -⟩ := List.cons_prefix_cons.mp part
          exact congrArg Prod.snd same
      | cons first rest =>
          rw [if_neg (by simp)]
          exact target rest (List.cons_prefix_cons.mp part).2

/-- If a run fails, the kind of its failure tells over which call. -/
theorem run_failure_locates (names : l.source.NamesResource) {input : String} {s : σ}
    {failure : Failure} (failed : (l.run input s).result = .error failure) :
    failure.Locates input (l.calls s (l.run input s).trace) := by
  have ends := (l.run_accounts input).stops s failure failed
  have fetched := l.fetches_calls s (l.run input s).trace
  obtain ⟨earlier, last, made, -, explains⟩ := id ends
  have kinds := explains.kinds names fun path resource reply same => by
    have called : last ∈ l.calls s (l.run input s).trace := by simp [made]
    exact l.reply_of_mem_calls (same ▸ called)
  rw [made] at ends fetched ⊢
  have called : last ∈ earlier ++ [last] := List.mem_append_right _ List.mem_cons_self
  refine ⟨⟨?_, ?_⟩, fun _ => ends.of_told, ⟨?_, ?_⟩, fun _ _ _ => ends.of_asked, ?_, ⟨?_, ?_⟩, ends⟩
  · intro kind
    rw [kind] at kinds
    obtain ⟨-, fault, rfl⟩ | ⟨⟨⟩, -⟩ | ⟨⟨⟩, -⟩ := kinds
    exact ⟨fault, called⟩
  · rintro ⟨fault, member⟩
    rw [ends.of_told member]
    rfl
  · intro kind
    rw [kind] at kinds
    obtain ⟨⟨⟩, -⟩ | ⟨-, path, resource, rfl, -⟩ | ⟨⟨⟩, -⟩ := kinds
    exact ⟨path, resource, failure, called, kind⟩
  · rintro ⟨path, resource, unanswered, member, kind⟩
    rwa [ends.of_asked member]
  · intro kind
    rw [kind] at kinds
    obtain ⟨⟨⟩, -⟩ | ⟨-, path, resource, rfl, named⟩ | ⟨⟨⟩, -⟩ := kinds
    rw [named, Called.length_filter_isAsked, List.filterMap_append]
    rw [List.filterMap_append] at fetched
    exact congrArg some (l.resource_of_fetches fetched.symm)
  · intro kind
    constructor
    · intro fault member
      rw [ends.of_told member] at kind
      cases kind
    · rw [kind] at kinds
      obtain ⟨⟨⟩, -⟩ | ⟨⟨⟩, -⟩ | ⟨-, path, resource, reply, rfl, offends⟩ := kinds
      exact ⟨path, resource, reply, Called.lastAsked?_append_asked _ _ _ _, offends⟩
  · rintro ⟨fine, path, resource, reply, asked, offends⟩
    rcases kinds with ⟨-, fault, rfl⟩ | ⟨-, other, kind, rfl, -⟩ | ⟨kind, -⟩
    · exact absurd called (fine fault)
    -- A request that was not answered has no document that offends.
    · rw [Called.lastAsked?_append_asked] at asked
      obtain ⟨-, -, rfl⟩ := Called.asked.inj (Option.some.inj asked)
      cases offends
      rfl
    · exact kind

theorem run_failure_locates_pair :
    let l : Lookup Unit := ⟨pairSource, "/reports/", .silent⟩
    let made := l.calls () (l.run "Power" ()).trace
    let failure := Failure.status .attributes "/b" 404
    l.source.NamesResource ∧ (l.run "Power" ()).result = .error failure ∧
      failure.Locates "Power" made ∧
      ∃ path resource unanswered, .asked path resource (.error unanswered) ∈ made ∧
        unanswered.kind = .transport := by
  intro l made failure
  have names : l.source.NamesResource := by
    intro path resource s other failed
    cases resource with
    | report => cases failed
    | attributes =>
        by_cases first : path = "/a"
        · subst first
          cases failed
        · have status : (l.source path .attributes s).result =
              .error (.status .attributes path 404) := by
            simp only [l, pairSource, first, if_false]
            rfl
          rw [status] at failed
          cases failed
          rfl
  have failed : (l.run "Power" ()).result = .error failure :=
    ((l.run_follows Sink.silent_reliable.keeps (names_pair "/reports/" .silent)).complete
      trivial).2.1
  have locates := l.run_failure_locates names failed
  exact ⟨names, failed, locates, locates.transport.mp rfl⟩

end Lookup
end SensorThresholds
