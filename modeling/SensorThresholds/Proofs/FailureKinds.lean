import SensorThresholds.Http
import SensorThresholds.Proofs.AttributesDocument
import SensorThresholds.Proofs.Run

/-!
Where failures come from. What is wrong with a document is a failure of format; any other failure of
a lookup is one of its source or of its sink.
-/

namespace SensorThresholds

variable {α β : Type}

/-- What is wrong with an attributes document is its format. -/
theorem Report.ofDocument_error_kind {path : String} {document : Document} {failure : Failure}
    (failed : Report.ofDocument path document = .error failure) : failure.kind = .format := by
  cases yields_iff.mpr failed <;> rfl

namespace Lookup

variable {σ : Type} {inv : σ → Prop}

theorem answer_error (l : Lookup σ) {path : String} {failure : Failure}
    (failed : l.answer path = .error failure) :
    failure.kind = .format ∨ l.reply path .attributes = .error failure := by
  cases replied : l.reply path .attributes with
  | error other =>
      rw [l.answer_of_error path replied] at failed
      rw [Except.error.inj failed]
      exact .inr rfl
  | ok document =>
      rw [l.answer_of_ok path replied] at failed
      exact .inl (Report.ofDocument_error_kind failed)

theorem names_error (l : Lookup σ) {input : String} {failure : Failure}
    (names : l.Names input (.error failure)) :
    failure.kind = .format ∨ l.reply (l.reportPath input) .report = .error failure := by
  unfold Names at names
  split at names
  · cases names
  · generalize l.reply (l.reportPath input) .report = reply at names
    cases names with
    | unanswered => exact .inr rfl
    | _ => exact .inl rfl

/-- With a sink that takes everything, a run fails over a format or with a failure of its source. -/
theorem run_error (l : Lookup σ) (reliable : l.sink.Reliable inv) {input : String} {s : σ}
    (start : inv s) {failure : Failure} (failed : (l.run input s).result = .error failure) :
    failure.kind = .format ∨ ∃ path resource, l.reply path resource = .error failure := by
  obtain ⟨result, names⟩ := l.exists_names input
  cases result with
  | error other =>
      rw [((l.run_follows_unresolved reliable.keeps names).complete start).2.1] at failed
      cases failed
      exact (l.names_error names).imp_right fun replied => ⟨_, _, replied⟩
  | ok paths =>
      rw [((l.run_follows reliable.keeps names).complete start).2.1] at failed
      rcases l.answered_or_first_failure paths with
        answered | ⟨before, target, after, other, rfl, answered, unanswered⟩
      · rw [(reached_of_answered answered).2] at failed
        cases failed
      · rw [(reached_of_failure answered unanswered).2] at failed
        cases failed
        exact (l.answer_error unanswered).imp_right fun replied => ⟨_, _, replied⟩

end Lookup

/-- Whatever the computation fails with has the property. -/
def Traced.FailsOnly {ε φ σ : Type} (p : φ → Prop) (x : Traced ε φ σ α) : Prop :=
  ∀ s failure, (x s).result = .error failure → p failure

namespace Traced.FailsOnly

variable {ε φ σ : Type} {p : φ → Prop} {x : Traced ε φ σ α} {f : α → Traced ε φ σ β}

theorem pure (a : α) : FailsOnly p (pure a : Traced ε φ σ α) := by
  intro s failure failed
  cases failed

theorem emit (event : ε) : FailsOnly p (emit event : Traced ε φ σ Unit) := by
  intro s failure failed
  cases failed

theorem fail {failure : φ} (allowed : p failure) :
    FailsOnly p (fail failure : Traced ε φ σ α) := by
  intro s other failed
  exact Except.error.inj failed ▸ allowed

theorem ofExcept {result : Except φ α} (allowed : ∀ failure, result = .error failure → p failure) :
    FailsOnly p (ofExcept result : Traced ε φ σ α) := by
  intro s failure failed
  rw [ofExcept_apply] at failed
  exact allowed failure failed

theorem bind (first : FailsOnly p x) (second : ∀ a, FailsOnly p (f a)) :
    FailsOnly p (x >>= f) := by
  intro s failure failed
  rcases h : x s with ⟨trace, s', other | a⟩
  · rw [bind_of_error h] at failed
    obtain rfl : other = failure := Except.error.inj failed
    exact first s other (by rw [h])
  · rw [bind_of_ok h] at failed
    exact second a s' failure failed

end Traced.FailsOnly

/-- A failure of a request: a status, the lack of an answer, or an answer that is no JSON. It names
what was asked for. -/
def Failure.IsOfRequest (resource : Resource) : Failure → Prop
  | .status named .. | .request named _ | .notJson named _ => named = resource
  | _ => False

theorem Failure.IsOfRequest.kind_ne_output {resource : Resource} {failure : Failure}
    (request : failure.IsOfRequest resource) : failure.kind ≠ .output := by
  cases failure with
  | output fault => exact request.elim
  | _ => simp [Failure.kind]

/-- The failures of the source are those of its requests. -/
def Source.NamesResource (source : Source) : Prop :=
  ∀ path resource, (source path resource).FailsOnly (Failure.IsOfRequest resource)

/-- No answer of the source is a fault of an output. -/
def Source.NeverOutput (source : Source) : Prop :=
  ∀ path resource, (source path resource).FailsOnly fun failure => failure.kind ≠ .output

theorem Source.NamesResource.neverOutput {source : Source} (names : source.NamesResource) :
    source.NeverOutput :=
  fun path resource s failure failed => (names path resource s failure failed).kind_ne_output

theorem readPage_error {resource : Resource} {url text : String} {page : Page} {failure : Failure}
    (failed : readPage resource url page text = .error failure) :
    failure.IsOfRequest resource := by
  unfold readPage at failed
  split at failed
  · split at failed
    · cases failed
    · obtain rfl := Except.error.inj failed
      rfl
  · obtain rfl := Except.error.inj failed
    rfl

theorem Source.ofTable_namesResource (address : String) (pages : List Page) :
    (Source.ofTable address pages).NamesResource :=
  fun _ _ => .ofExcept fun _ => readPage_error

namespace Client

variable {p : Failure → Prop} {failure : Failure}

theorem hop_failsOnly (lib : HttpLibrary) (peer : Peer) (allowed : p failure) (url : Url)
    (r : Request) {follow : Onward → SourceAction Answer}
    (later : ∀ onward, (follow onward).FailsOnly p) :
    (hop lib peer failure url r follow).FailsOnly p := by
  unfold hop
  split
  · exact .fail allowed
  · refine Traced.FailsOnly.bind (.emit _) fun _ => ?_
    split
    · split
      · exact .pure _
      · exact later _
    · exact .fail allowed

theorem send_failsOnly (lib : HttpLibrary) (peer : Peer) (allowed : p failure) (hops : Nat)
    (url : Url) (r : Request) : (send lib peer failure hops url r).FailsOnly p := by
  induction hops generalizing url r with
  | zero => exact hop_failsOnly lib peer allowed url r fun _ => .fail allowed
  | succ hops ih => exact hop_failsOnly lib peer allowed url r fun onward => ih onward.url _

theorem receive_failsOnly (lib : HttpLibrary) (resource : Resource) (address : String)
    (answer : Answer) :
    (receive lib resource address answer).FailsOnly (Failure.IsOfRequest resource) := by
  unfold receive
  split
  · split
    · refine Traced.FailsOnly.bind (.emit _) fun _ => ?_
      split
      · exact .pure _
      · exact .fail rfl
    · exact .fail rfl
  · exact .fail rfl

theorem source_namesResource (c : Client) (lib : HttpLibrary) (peer : Peer) :
    (c.sourceOver lib peer).NamesResource := by
  intro path resource
  have own : (Failure.request resource (c.url path)).IsOfRequest resource := rfl
  have exchanged : (c.exchange lib peer (.request resource (c.url path)) (c.url path)).FailsOnly
      (Failure.IsOfRequest resource) := by
    unfold exchange
    split
    · exact send_failsOnly lib peer own _ _ _
    · exact .fail own
  refine Traced.FailsOnly.bind (.emit _) fun _ => ?_
  exact Traced.FailsOnly.bind exchanged (receive_failsOnly lib resource _)

end Client

theorem Source.ofTable_neverOutput (address : String) (pages : List Page) :
    (Source.ofTable address pages).NeverOutput :=
  (Source.ofTable_namesResource address pages).neverOutput

theorem Client.source_neverOutput (c : Client) (lib : HttpLibrary) (peer : Peer) :
    (c.sourceOver lib peer).NeverOutput :=
  (c.source_namesResource lib peer).neverOutput

end SensorThresholds
