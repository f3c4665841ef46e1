import SensorThresholds.Program
import SensorThresholds.Proofs.Related
import SensorThresholds.Proofs.Trace

/-!
The password of a run. Where the answers of the peer do not depend on the credentials, two runs with
different passwords differ in nothing but the header of their requests.
-/

namespace SensorThresholds
open Trace

variable {ε ε' φ φ' σ α β : Type}

/-- The same request with another header for its credentials, if it has one. -/
def Request.signed (header : String) (r : Request) : Request :=
  { r with authorization := if r.authorization = "" then "" else header }

theorem Request.signed_onward (header : String) (r : Request) (onward : Onward) :
    (r.onward onward).signed header = (r.signed header).onward onward := by
  unfold Request.onward signed
  cases onward.credentials <;> rfl

/-- The answers of the peer do not depend on who asks. -/
def Peer.IgnoresCredentials (peer : Peer) : Prop :=
  ∀ url header r, peer url (r.signed header) = peer url r

theorem Server.peer_ignoresCredentials (s : Server) : s.peer.IgnoresCredentials :=
  fun _ _ _ => rfl

def SourceEvent.signed (header : String) : SourceEvent → SourceEvent
  | .request r => .request (r.signed header)
  | event => event

namespace Event

def signed (header : String) : Event → Event
  | request r => request (r.signed header)
  | event => event

def entry? : Event → Option LogEntry
  | log entry => some entry
  | _ => none

theorem signed_within (header target : String) (event : Event) :
    (event.within target).signed header = (event.signed header).within target := by
  cases event <;> rfl

theorem signed_source (header : String) (event : SourceEvent) :
    event.toEvent.signed header = (event.signed header).toEvent := by
  cases event <;> rfl

theorem signed_sink (header : String) (event : SinkEvent) :
    event.toEvent.signed header = event.toEvent := by
  cases event <;> rfl

end Event

namespace Trace

variable (header : String) (trace : List Event)

/-- What goes to the log, at all levels. -/
def logged (trace : List Event) : List LogEntry := trace.filterMap Event.entry?

theorem logged_signed : logged (trace.map (Event.signed header)) = logged trace := by
  rw [logged, List.filterMap_map]
  congr 1
  funext event
  cases event <;> rfl

theorem written_signed : written (trace.map (Event.signed header)) = written trace := by
  rw [written, List.flatMap_map]
  congr 1
  funext event
  cases event <;> rfl

theorem requests_signed :
    requests (trace.map (Event.signed header)) =
      (requests trace).map (Request.signed header) := by
  rw [requests, requests, List.filterMap_map, List.map_filterMap]
  congr 1
  funext event
  cases event <;> rfl

end Trace

/-- The second computation does what the first one does, with its events changed. -/
def Traced.Mirrors (change : ε → ε) (x y : Traced ε φ σ α) : Prop :=
  ∀ s, y s = ⟨(x s).trace.map change, (x s).state, (x s).result⟩

namespace Traced.Mirrors

variable {change : ε → ε} {x y : Traced ε φ σ α} {f g : α → Traced ε φ σ β}

theorem pure (a : α) : Mirrors change (pure a : Traced ε φ σ α) (pure a) := fun _ => rfl

theorem fail (failure : φ) : Mirrors change (fail failure : Traced ε φ σ α) (fail failure) :=
  fun _ => rfl

theorem ofExcept (result : Except φ α) :
    Mirrors change (ofExcept result : Traced ε φ σ α) (ofExcept result) := by
  cases result with
  | ok a => exact pure a
  | error failure => exact fail failure

theorem emit {event changed : ε} (same : change event = changed) :
    Mirrors change (emit event : Traced ε φ σ Unit) (emit changed) := fun _ => by
  rw [emit_apply, emit_apply, List.map_singleton, same]

theorem bind (first : Mirrors change x y) (second : ∀ a, Mirrors change (f a) (g a)) :
    Mirrors change (x >>= f) (y >>= g) := by
  intro s
  have mirrored := first s
  rcases ran : x s with ⟨trace, s', failure | a⟩
  · rw [ran] at mirrored
    rw [bind_of_error ran, bind_of_error mirrored]
  · rw [ran] at mirrored
    rw [bind_of_ok ran, bind_of_ok mirrored, second a s', List.map_append]

/-- Other words for the events, which the change goes through. -/
theorem relabel {change' : ε' → ε'} {event : ε → ε'} (failure : φ → φ')
    (through : ∀ e, change' (event e) = event (change e)) (mirrors : Mirrors change x y) :
    Mirrors change' (x.relabel event failure) (y.relabel event failure) := by
  intro s
  rw [relabel_apply, relabel_apply, mirrors s]
  simp only [List.map_map, Function.comp_def, through]

/-- A computation that does nothing of what is changed. -/
theorem unchanged {event : ε → ε'} {change' : ε' → ε'} (failure : φ → φ')
    (fixed : ∀ e, change' (event e) = event e) (x : Traced ε φ σ α) :
    Mirrors change' (x.relabel event failure) (x.relabel event failure) := by
  have same : Mirrors id x x := fun s => by rw [List.map_id]
  exact same.relabel failure fixed

theorem beside {x y : Traced ε φ Unit α} (mirrors : Mirrors change x y) :
    Mirrors change (x.beside : Traced ε φ σ α) y.beside := by
  intro s
  simp only [Traced.beside, mirrors ()]

end Traced.Mirrors

namespace Client

variable {c other : Client} {peer : Peer}

theorem request_signed (c other : Client) (target : String) :
    (c.request target).signed other.authorization = other.request target := by
  have present : c.authorization ≠ "" := by simp [authorization]
  unfold request Request.signed
  rw [if_neg present]

theorem hop_mirrors (blind : peer.IgnoresCredentials) (lib : HttpLibrary) (failure : Failure)
    {header : String} (url : Url) (r : Request) {follow follow' : Onward → SourceAction Answer}
    (later : ∀ onward,
      Traced.Mirrors (SourceEvent.signed header) (follow onward) (follow' onward)) :
    Traced.Mirrors (SourceEvent.signed header) (hop lib peer failure url r follow)
      (hop lib peer failure url (r.signed header) follow') := by
  unfold hop
  rw [blind url header r]
  cases peer url r with
  | none => exact .fail _
  | some answer =>
      apply Traced.Mirrors.bind (.emit rfl)
      intro _
      split
      · cases lib.onward? url answer with
        | none => exact .pure answer
        | some onward => exact later onward
      · exact .fail _

/-- A request that peers answer without a look at its credentials, wherever its answer leads. -/
theorem send_mirrors (blind : peer.IgnoresCredentials) (lib : HttpLibrary) (failure : Failure)
    (header : String) (hops : Nat) (url : Url) (r : Request) :
    Traced.Mirrors (SourceEvent.signed header) (send lib peer failure hops url r)
      (send lib peer failure hops url (r.signed header)) := by
  induction hops generalizing url r with
  | zero => exact hop_mirrors blind lib failure url r fun _ => .fail _
  | succ hops ih =>
      apply hop_mirrors blind lib failure url r
      intro onward
      rw [← r.signed_onward header onward]
      exact ih onward.url (r.onward onward)

/-- Two clients of one peer at one address differ in their credentials only. -/
theorem sourceOver_mirrors (blind : peer.IgnoresCredentials) (lib : HttpLibrary)
    (scheme : c.scheme = other.scheme) (host : c.host = other.host) (path : String)
    (resource : Resource) :
    Traced.Mirrors (SourceEvent.signed other.authorization) (c.sourceOver lib peer path resource)
      (other.sourceOver lib peer path resource) := by
  have address : c.url path = other.url path := by rw [url, url, scheme, host]
  have received (answer : Answer) :
      Traced.Mirrors (SourceEvent.signed other.authorization)
        (receive lib resource (other.url path) answer)
        (receive lib resource (other.url path) answer) := by
    unfold receive
    split
    · split
      · apply Traced.Mirrors.bind (.emit rfl)
        intro _
        split
        · exact .pure _
        · exact .fail _
      · exact .fail _
    · exact .fail _
  rw [sourceOver, sourceOver, address]
  apply Traced.Mirrors.bind (.emit rfl)
  intro _
  refine Traced.Mirrors.bind ?_ received
  unfold exchange
  cases lib.address? (other.url path) with
  | none => exact .fail _
  | some url =>
      have mirrored := send_mirrors blind lib (.request resource (other.url path))
        other.authorization maxHops url (c.request url.target)
      rw [request_signed] at mirrored
      exact mirrored

end Client

theorem Lookup.mirrors_related (c other : Client) {peer : Peer}
    (blind : peer.IgnoresCredentials) (lib : HttpLibrary) (scheme : c.scheme = other.scheme)
    (host : c.host = other.host) (reportBase : String) (sink : Sink σ) :
    Related ⟨c.sourceOver lib peer, reportBase, sink⟩
      ⟨other.sourceOver lib peer, reportBase, sink⟩
      (Traced.Mirrors (Event.signed other.authorization)) where
  reportBase := rfl
  pure := .pure
  fail failure _ := .fail failure
  bind := .bind
  within target _ _ plain := plain.relabel id (Event.signed_within _ target)
  log _ _ := .emit rfl
  note _ := .bind (.emit rfl) fun _ => .unchanged _ (Event.signed_sink _) _
  report _ := .bind (.emit rfl) fun _ => .unchanged _ (Event.signed_sink _) _
  fetch path resource := by
    apply Traced.Mirrors.bind (.emit rfl)
    intro _
    have asked := Client.sourceOver_mirrors blind lib scheme host path resource
    exact asked.beside.relabel id (Event.signed_source _)

theorem logAll_mirrors (header : String) (lines : List String) :
    Traced.Mirrors (Event.signed header) (logAll lines) (logAll lines) := by
  induction lines with
  | nil => exact .pure ()
  | cons line rest ih => exact .bind (.emit rfl) fun _ => ih

namespace Arguments

/-- The header that carries the credentials. -/
def header (a : Arguments) : String :=
  Client.authorization ⟨"https", a.host, a.user, a.password⟩

theorem runOver_mirrors {peer : Peer} (blind : peer.IgnoresCredentials) (lib : HttpLibrary)
    (a : Arguments) (password : String) (env : Environment) :
    Traced.Mirrors (Event.signed { a with password }.header) (a.runOver env lib peer)
      ({ a with password }.runOver env lib peer) := by
  apply Traced.Mirrors.bind (.ofExcept _)
  intro settings
  apply (logAll_mirrors _ _).bind
  intro _
  unfold client
  cases lib.refusal? settings.verifyTls settings.timeoutSeconds with
  | some reason => exact .fail _
  | none =>
      let c : Client := ⟨settings.scheme, a.host, a.user, a.password⟩
      have related := Lookup.mirrors_related c { c with password } blind lib rfl rfl
        settings.reportBase a.format.sink
      exact (related.run a.property).relabel ProgramFault.lookup fun _ => rfl

end Arguments

namespace Exit

theorem ofTrace_eq (code : Nat) (style : LogStyle) (trace : List Event) :
    ofTrace code style trace = ⟨code, written trace,
      style.filter.complaints ++ (logged trace).filterMap style.line?, Trace.requests trace⟩ := by
  have lines : (logged trace).filterMap style.line? = trace.filterMap fun
      | .log entry => style.line? entry
      | _ => none := by
    rw [logged, List.filterMap_filterMap]
    congr 1
    funext event
    cases event <;> rfl
  rw [lines]
  rfl

theorem ofTrace_signed (code : Nat) (style : LogStyle) (header : String) (trace : List Event) :
    ofTrace code style (trace.map (Event.signed header)) =
      { ofTrace code style trace with
        requests := (Trace.requests trace).map (Request.signed header) } := by
  rw [ofTrace_eq, ofTrace_eq, written_signed, logged_signed, requests_signed]

/-- What is left on the outputs is the same, whatever the header was. -/
theorem ofOutcome_signed (style : LogStyle) (header : String)
    (outcome : Outcome Event ProgramFault Writer Unit) :
    ofOutcome style ⟨outcome.trace.map (Event.signed header), outcome.state, outcome.result⟩ =
      { ofOutcome style outcome with
        requests := (Trace.requests outcome.trace).map (Request.signed header) } := by
  rcases outcome with ⟨trace, w, fault | _⟩
  · have last : trace.map (Event.signed header) ++ [Event.log fault.entry] =
        (trace ++ [Event.log fault.entry]).map (Event.signed header) := by
      rw [List.map_append]
      rfl
    have same : Trace.requests (trace ++ [.log fault.entry]) = Trace.requests trace := by
      rw [requests_append]
      exact List.append_nil _
    show ofTrace 1 style (trace.map (Event.signed header) ++ [Event.log fault.entry]) = _
    rw [last, ofTrace_signed, same]
    rfl
  · exact ofTrace_signed 0 style header trace

end Exit

namespace Arguments

/-- Of two runs that differ in the password, before a peer that does not look at credentials, both
end in the same way, write the same, log the same at every level, and send the same requests but for
the header that carries the credentials. Neither output shows a difference, whatever is logged. -/
theorem password_only_in_header (lib : HttpLibrary) (peer : Peer)
    (blind : peer.IgnoresCredentials) (a : Arguments) (password : String) (env : Environment)
    (w : Writer) :
    let other : Arguments := { a with password }
    let first := a.runOver env lib peer w
    let second := other.runOver env lib peer w
    second.result = first.result ∧ second.state = first.state ∧
      written second.trace = written first.trace ∧ logged second.trace = logged first.trace ∧
      requests second.trace = (requests first.trace).map (Request.signed other.header) ∧
      second.trace = first.trace.map (Event.signed other.header) ∧
      ∀ style, Exit.ofOutcome style second = { Exit.ofOutcome style first with
        requests := (requests first.trace).map (Request.signed other.header) } := by
  intro other first second
  have mirrored : second = ⟨first.trace.map (Event.signed other.header), first.state,
      first.result⟩ := runOver_mirrors blind lib a password env w
  rw [mirrored]
  refine ⟨rfl, rfl, written_signed _ _, logged_signed _ _, requests_signed _ _, rfl, ?_⟩
  intro style
  exact Exit.ofOutcome_signed style other.header first

/-- Two runs at full detail, of which only the requests show that the passwords differ. -/
theorem password_only_in_header_calvin :
    let server : Server := ⟨"[::1]", 80, []⟩
    let env := Environment.empty.set "REDFISH_SCHEME" "http"
    let a : Arguments := ⟨"[::1]", "root", "calvin", "Power", .text, 2⟩
    let other : Arguments := { a with password := "hobbes" }
    let first := a.run env server .unlimited
    let second := other.run env server .unlimited
    server.peer.IgnoresCredentials ∧ a.header ≠ other.header ∧
      (requests first.trace).map Request.authorization = [a.header] ∧
      requests second.trace = (requests first.trace).map (Request.signed other.header) ∧
      logged second.trace = logged first.trace ∧ written second.trace = written first.trace := by
  intro server env a other first second
  have blind : server.peer.IgnoresCredentials := server.peer_ignoresCredentials
  obtain ⟨-, -, output, entries, sent, -⟩ :=
    password_only_in_header .plain server.peer blind a "hobbes" env .unlimited
  exact ⟨blind, by decide +kernel, by decide +kernel, sent, entries, output⟩

end Arguments
end SensorThresholds
