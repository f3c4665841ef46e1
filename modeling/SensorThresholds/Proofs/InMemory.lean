import SensorThresholds.Session
import SensorThresholds.Proofs.ClientOutcome
import SensorThresholds.Proofs.PlainPaths
import SensorThresholds.Proofs.ReadMembers
import SensorThresholds.Proofs.Related

/-!
A client before a peer that has some pages, beside the table of these pages in memory. As long as
the pages that are asked for are delivered, what is done over the client is what is done over the
table. The client sends one request for each document, in turn, and its errors show its own address.
-/

namespace SensorThresholds
open Trace

variable {σ α β : Type}

/-- A URL with another start, if it starts with the old one. -/
def readdressUrl (old new url : String) : String :=
  match url.toList.dropPrefix? old.toList with
  | some rest => new ++ .ofList rest
  | none => url

theorem readdressUrl_append (old new path : String) :
    readdressUrl old new (old ++ path) = new ++ path := by
  have dropped : (old ++ path).toList.dropPrefix? old.toList = some path.toList := by
    rw [List.dropPrefix?_eq_some_iff]
    exact ⟨old.toList, String.toList_append, beq_self_eq_true _⟩
  rw [readdressUrl, dropped]
  exact congrArg (new ++ ·) String.ofList_toList

namespace Failure

/-- The same failure at another address. -/
def readdress (old new : String) : Failure → Failure
  | status resource url code => status resource (readdressUrl old new url) code
  | request resource url => request resource (readdressUrl old new url)
  | notJson resource url => notJson resource (readdressUrl old new url)
  | failure => failure

theorem readdress_of_isOfDocument (old new : String) {failure : Failure}
    (own : failure.isOfDocument = true) : failure.readdress old new = failure := by
  cases failure <;> first | rfl | cases own

end Failure

/-- Pages as a server has them: final answers that may have a body, with texts that no mark comes
before. -/
structure IsTable (pages : List Page) : Prop where
  status : ∀ page ∈ pages, 200 ≤ page.status ∧ page.status < 600 ∧ page.status ≠ 204
  text : ∀ page ∈ pages, ∃ text : String,
    page.body = Utf8.encode text ∧ text.toList.head? ≠ some '\uFEFF'

/-- The page is the first one at the path, or it stands for there being none. -/
inductive Page.IsAt (pages : List Page) (path : String) (page : Page) : Prop where
  | found {before after : List Page} (parts : pages = before ++ page :: after)
      (named : page.path = path) (first : ∀ other ∈ before, other.path ≠ path)
  | missing (none : ∀ other ∈ pages, other.path ≠ path) (status : page.status = 404)

theorem findPage_isAt (pages : List Page) (path : String) :
    (findPage pages path).IsAt pages path := by
  unfold findPage
  cases found : pages.find? (·.path == path) with
  | none =>
      refine .missing ?_ rfl
      intro other member named
      exact List.find?_eq_none.mp found other member (beq_iff_eq.mpr named)
  | some page =>
      obtain ⟨named, before, after, parts, first⟩ := List.find?_eq_some_iff_append.mp found
      refine .found parts (beq_iff_eq.mp named) ?_
      intro other member same
      simpa [same] using first other member

/-- Also what is said of a path without a page is a final answer, with a text. -/
theorem IsTable.of_findPage {pages : List Page} (table : IsTable pages) (path : String) :
    (200 ≤ (findPage pages path).status ∧ (findPage pages path).status < 600 ∧
      (findPage pages path).status ≠ 204) ∧
      ∃ text : String, (findPage pages path).body = Utf8.encode text ∧
        text.toList.head? ≠ some '\uFEFF' := by
  unfold findPage
  cases found : pages.find? (·.path == path) with
  | none =>
      have empty : [] = Utf8.encode "" := by decide +kernel
      exact ⟨by simp [Page.notFound], "", empty, by simp⟩
  | some page =>
      have member := List.mem_of_find?_eq_some found
      exact ⟨table.status page member, table.text page member⟩

/-- What is made of a page with a text. -/
inductive Page.Reads (page : Page) (resource : Resource) (address : String) :
    Except Failure Document → Prop where
  | refused (status : ¬ (200 ≤ page.status ∧ page.status ≤ 299)) :
      Reads page resource address (.error (.status resource address page.status))
  | notJson {text : String} (status : 200 ≤ page.status ∧ page.status ≤ 299)
      (body : page.body = Utf8.encode text)
      (other : ¬ ∃ document, Document.Denoted text document) :
      Reads page resource address (.error (.notJson resource address))
  | document {text : String} {document : Document}
      (status : 200 ≤ page.status ∧ page.status ≤ 299) (body : page.body = Utf8.encode text)
      (denoted : Document.Denoted text document) :
      Reads page resource address (.ok document)

theorem readPage_reads {page : Page} {text : String} (body : page.body = Utf8.encode text)
    (resource : Resource) (address : String) :
    page.Reads resource address (readPage resource address page (Utf8.decode page.body)) := by
  have same : Utf8.decode page.body = text := by rw [body, Utf8.decode_encode]
  rw [same]
  unfold readPage
  cases success : isSuccess page.status with
  | false =>
      refine .refused ?_
      rw [← Client.isSuccess_iff, success]
      exact Bool.false_ne_true
  | true =>
      have status := (Client.isSuccess_iff page.status).mp success
      simp only [if_true]
      cases read : Document.read? text with
      | none => exact .notJson status body (Document.read?_eq_none_iff.mp read)
      | some document => exact .document status body (Document.read?_eq_some_iff.mp read)

/-- What arrives of a page: its status, and the whole body of a success as it is. -/
structure Page.Arrives (page : Page) (answer : Answer) : Prop where
  status : answer.status = page.status
  body : isSuccess page.status = true → answer.body = page.body ∧ answer.complete = true ∧
    answer.encoding = none ∧ answer.charset = none

/-- The library takes the address of a path, and what answers there is the page of a table and leads
nowhere else. -/
structure Client.Delivers (c : Client) (lib : HttpLibrary) (peer : Peer) (pages : List Page)
    (path : String) (url : Url) (answer : Answer) : Prop where
  address : lib.address? (c.url path) = some url
  target : url.target = path
  answers : peer url (c.request path) = some answer
  stays : lib.onward? url answer = none
  arrives : (findPage pages path).Arrives answer

/-- A server delivers the pages that it has whole, at plain paths that are not too long. -/
theorem Server.delivers (s : Server) {c : Client} (plain : c.scheme = "http")
    (addresses : c.Addresses s.host s.port) (table : IsTable s.pages)
    (whole : ∀ page ∈ s.pages, page.complete = true) {path : String} (isPlain : IsPlainPath path)
    (short : (Url.mk c.scheme s.host s.port path).size ≤ HttpLibrary.maxSize) :
    c.Delivers .plain s.peer s.pages path ⟨c.scheme, s.host, s.port, path⟩
      (.ofPage (s.answer path)) := by
  refine ⟨?_, rfl, ?_, rfl, ?_⟩
  · rw [HttpLibrary.plain]
    dsimp only
    rw [addresses.parse?_url isPlain, Option.filter_some, if_pos (decide_eq_true short)]
  · simp [peer, accepts, plain, Client.request]
  · have found : (findPage s.pages path).complete = true := by
      unfold findPage
      cases found : s.pages.find? (·.path == path) with
      | none => rfl
      | some page => exact whole page (List.mem_of_find?_eq_some found)
    obtain ⟨⟨-, -, full⟩, -⟩ := table.of_findPage path
    simp only [answer]
    generalize findPage s.pages path = page at found full
    split
    · next bodiless =>
        refine ⟨rfl, ?_⟩
        intro success
        -- Of the two statuses without a body the one that is a success is none of a table.
        simp only [Server.bodiless, Bool.or_eq_true, beq_iff_eq, full, false_or] at bodiless
        rw [isSuccess, bodiless] at success
        cases success
    · exact ⟨rfl, fun _ => ⟨rfl, found, rfl, rfl⟩⟩

/-- What stands before the paths. -/
def Client.address (c : Client) : String := s!"{c.scheme}://{c.host}"

theorem Client.url_eq (c : Client) (path : String) : c.url path = c.address ++ path := rfl

theorem readPage_readdress (old new path : String) (resource : Resource) (page : Page)
    (text : String) :
    readPage resource (new ++ path) page text =
      (readPage resource (old ++ path) page text).mapError (Failure.readdress old new) := by
  have moved := readdressUrl_append old new path
  unfold readPage
  split
  · cases Document.read? text with
    | some document => rfl
    | none => simp [throw, throwThe, MonadExceptOf.throw, Except.mapError, Failure.readdress, moved]
  · simp [throw, throwThe, MonadExceptOf.throw, Except.mapError, Failure.readdress, moved]

namespace Client

variable {c : Client} {lib : HttpLibrary} {peer : Peer} {pages : List Page}

/-- What is read of an answer is what is read of the page in memory. -/
theorem receive_arrives {page : Page} {answer : Answer} (arrives : page.Arrives answer)
    {text : String} (body : page.body = Utf8.encode text)
    (unmarked : text.toList.head? ≠ some '\uFEFF') (resource : Resource) (address : String) :
    (receive lib resource address answer ()).result =
      readPage resource address page (Utf8.decode page.body) := by
  unfold readPage
  cases success : isSuccess page.status with
  | false =>
      have refused : isSuccess answer.status = false := by rw [arrives.status, success]
      rw [receive, refused, arrives.status]
      rfl
  | true =>
      obtain ⟨kept, whole, unpacked, plain⟩ := arrives.body success
      have taken : isSuccess answer.status = true := by rw [arrives.status, success]
      have found : lib.text? answer = some (Utf8.decode page.body) := by
        simp only [HttpLibrary.text?, HttpLibrary.content?, whole, if_true, unpacked,
          Option.map_some, HttpLibrary.textOf, plain, kept]
        rw [body, decodeMarked_encode unmarked]
      obtain ⟨entry, received⟩ := receive_of_text taken found resource address
      rw [received]
      rfl

/-- What the client makes of a page is what is read of it in memory. -/
theorem sourceOver_delivered {path : String} {url : Url} {answer : Answer}
    (delivers : c.Delivers lib peer pages path url answer) (table : IsTable pages)
    (resource : Resource) :
    (c.sourceOver lib peer path resource ()).result =
        readPage resource (c.url path) (findPage pages path)
          (Utf8.decode (findPage pages path).body) ∧
      sent (c.sourceOver lib peer path resource ()).trace = [c.request path] := by
  obtain ⟨address, target, answers, stays, arrives⟩ := delivers
  subst target
  obtain ⟨⟨low, high, -⟩, text, body, unmarked⟩ := table.of_findPage url.target
  have final : Server.isFinal answer.status = true := by
    rw [arrives.status, Server.isFinal, decide_eq_true low, decide_eq_true (by omega)]
    exact Bool.or_true _
  have answered : c.answer? lib peer url.target = some (url, answer) := by
    rw [answer?, address, Option.bind_some, answers, Option.map_some]
  obtain ⟨result, seen⟩ := sourceOver_of_stays answered (fun _ => stays) resource
  rw [result, if_pos final, receive_arrives arrives body unmarked]
  exact ⟨rfl, seen⟩

end Client

/-- The first outcome is the second one over a client: errors show its address, and for each
document that is asked for there is one request of its, in turn. Nothing else is seen of it but
details in the log. -/
structure Outcome.Refines (c : Client) (address : String) (first second : Outcome Event Failure σ α) :
    Prop where
  result : first.result = second.result.mapError (Failure.readdress address c.address)
  state : first.state = second.state
  seen : first.trace.filter (!·.isOfSource) = second.trace
  requested : requests first.trace = (fetches second.trace).map fun fetch => c.request fetch.1

/-- The first computation refines the second one where that asks for nothing but what is delivered. -/
def Traced.Refines (c : Client) (delivered : String → Prop) (address : String)
    (x y : Action σ α) : Prop :=
  ∀ s, (∀ fetch ∈ fetches (y s).trace, delivered fetch.1) → (x s).Refines c address (y s)

theorem SourceEvent.isOfSource_toEvent (event : SourceEvent) : event.toEvent.isOfSource = true := by
  cases event <;> rfl

namespace Traced.Refines

variable {c : Client} {delivered : String → Prop} {address : String} {x y : Action σ α} {f g : α → Action σ β}

theorem bind (first : Refines c delivered address x y) (second : ∀ a, Refines c delivered address (f a) (g a)) :
    Refines c delivered address (x >>= f) (y >>= g) := by
  intro s asks
  rcases ran' : y s with ⟨trace', s', failure | a⟩
  · rw [bind_of_error ran'] at asks ⊢
    have refines := first s (by rw [ran']; exact asks)
    rw [ran'] at refines
    have broken : (x s).result = .error (failure.readdress address c.address) := refines.result
    rw [bind_of_error (by rw [← broken])]
    exact ⟨rfl, refines.state, refines.seen, refines.requested⟩
  · rw [bind_of_ok ran', fetches_append] at asks
    rw [bind_of_ok ran']
    have refines := first s (by
      rw [ran']
      exact fun fetch member => asks fetch (List.mem_append_left _ member))
    rw [ran'] at refines
    have later := second a s' fun fetch member => asks fetch (List.mem_append_right _ member)
    have went : (x s).result = .ok a := refines.result
    have kept : (x s).state = s' := refines.state
    rw [bind_of_ok (by rw [← went]), kept]
    refine ⟨later.result, later.state, ?_, ?_⟩
    · rw [List.filter_append, refines.seen, later.seen]
    · rw [requests_append, fetches_append, List.map_append, refines.requested, later.requested]

theorem within (target : String) (refines : Refines c delivered address x y) :
    Refines c delivered address (x.relabel (Event.within target) id)
      (y.relabel (Event.within target) id) := by
  intro s asks
  rw [relabel_id_apply, fetches_within] at asks
  rw [relabel_id_apply, relabel_id_apply]
  obtain ⟨result, state, seen, requested⟩ := refines s asks
  refine ⟨result, state, ?_, ?_⟩
  · rw [← seen, List.filter_map]
    congr 2
    funext event
    exact congrArg (!·) (event.isOfSource_within target)
  · rw [requests_within, fetches_within, requested]

/-- A computation that asks for nothing, and does nothing that a source does. -/
theorem own (quiet : ∀ s, ∀ event ∈ (x s).trace, event.isOfSource = false ∧ event.fetch? = none)
    (fixed : ∀ s failure, (x s).result = .error failure →
      failure.readdress address c.address = failure) : Refines c delivered address x x := by
  intro s _
  have unasked : fetches (x s).trace = [] :=
    List.filterMap_eq_nil_iff.mpr fun event member => (quiet s event member).2
  have unsent : requests (x s).trace = [] := by
    rw [requests, List.filterMap_eq_nil_iff]
    intro event member
    have other := (quiet s event member).1
    cases event with
    | request r => cases other
    | _ => rfl
  refine ⟨?_, rfl, ?_, by rw [unasked, unsent, List.map_nil]⟩
  · cases ended : (x s).result with
    | ok a => rfl
    | error failure => exact congrArg Except.error (fixed s failure ended).symm
  · rw [List.filter_eq_self]
    intro event member
    rw [(quiet s event member).1]
    rfl

theorem emit {event : Event} (other : event.isOfSource = false) (unasked : event.fetch? = none) :
    Refines c delivered address (Traced.emit event : Action σ Unit) (Traced.emit event) := by
  apply own
  · intro s told member
    rw [List.mem_singleton.mp member]
    exact ⟨other, unasked⟩
  · intro s failure failed
    cases failed

/-- What a sink does is its own. -/
theorem call (made : SinkAction σ Unit) :
    Refines c delivered address (made.relabel SinkEvent.toEvent Failure.output)
      (made.relabel SinkEvent.toEvent Failure.output) := by
  apply own
  · intro s event member
    obtain ⟨original, -, rfl⟩ := List.mem_map.mp member
    cases original <;> exact ⟨rfl, rfl⟩
  · intro s failure failed
    rw [relabel_apply] at failed
    cases ended : (made s).result with
    | ok _ => simp [ended, Except.mapError] at failed
    | error fault =>
        obtain rfl : Failure.output fault = failure := by
          simpa [ended, Except.mapError] using failed
        rfl

end Traced.Refines

namespace Lookup

variable {c : Client} {lib : HttpLibrary} {peer : Peer} {pages : List Page}

/-- The lookup of one document. -/
theorem fetch_refines (table : IsTable pages) (address reportBase : String) (sink : Sink σ)
    (path : String) (resource : Resource) :
    Traced.Refines c (fun path => ∃ url answer, c.Delivers lib peer pages path url answer) address
      (fetch ⟨c.sourceOver lib peer, reportBase, sink⟩ path resource)
      (fetch ⟨.ofTable address pages, reportBase, sink⟩ path resource) := by
  intro s asks
  have memory : fetch ⟨.ofTable address pages, reportBase, sink⟩ path resource s =
      ⟨[.fetch path resource], s, readPage resource (address ++ path) (findPage pages path)
        (Utf8.decode (findPage pages path).body)⟩ := by
    have answered : Source.ofTable address pages path resource () = ⟨[], (), _⟩ :=
      Traced.ofExcept_apply _ _
    rw [fetch_apply, reply]
    dsimp only
    rw [answered, List.map_nil]
  rw [memory] at asks ⊢
  obtain ⟨url, answer, delivers⟩ := asks (path, resource) List.mem_cons_self
  obtain ⟨read, requested⟩ := Client.sourceOver_delivered delivers table resource
  have silent : ((c.sourceOver lib peer path resource ()).trace.map SourceEvent.toEvent).filter
      (!·.isOfSource) = [] := by
    rw [List.filter_eq_nil_iff]
    intro event member
    obtain ⟨original, -, rfl⟩ := List.mem_map.mp member
    simp [original.isOfSource_toEvent]
  rw [fetch_apply, reply]
  refine ⟨?_, rfl, ?_, ?_⟩
  · dsimp only
    rw [read, c.url_eq]
    exact readPage_readdress address c.address path resource _ _
  · dsimp only
    rw [List.filter_cons_of_pos rfl, silent]
  · dsimp only
    rw [← List.singleton_append, requests_append, ← sent, requested]
    rfl

theorem refines_related (table : IsTable pages) (address reportBase : String) (sink : Sink σ) :
    Related ⟨c.sourceOver lib peer, reportBase, sink⟩ ⟨.ofTable address pages, reportBase, sink⟩
      (Traced.Refines c (fun path => ∃ url answer, c.Delivers lib peer pages path url answer)
        address) where
  reportBase := rfl
  pure a := .own (fun _ _ member => by cases member) fun _ _ failed => by cases failed
  fail failure own := .own (fun _ _ member => by cases member) fun _ other failed => by
    obtain rfl : failure = other := Except.error.inj failed
    exact failure.readdress_of_isOfDocument _ _ own
  bind := .bind
  within target _ _ refines := refines.within target
  log _ _ := .emit rfl rfl
  note line := (Traced.Refines.emit rfl rfl).bind fun _ => .call (sink.note line)
  report r := (Traced.Refines.emit rfl rfl).bind fun _ => .call (sink.report r)
  fetch := fetch_refines table address reportBase sink

theorem session_refines (table : IsTable pages) (address reportBase : String) (sink : Sink σ)
    (state : σ) (calls : List Call)
    (asks : ∀ outcome ∈ session ⟨.ofTable address pages, reportBase, sink⟩ state calls,
      ∀ fetch ∈ fetches outcome.trace,
        ∃ url answer, c.Delivers lib peer pages fetch.1 url answer) :
    List.Forall₂ (Outcome.Refines c address)
      (session ⟨c.sourceOver lib peer, reportBase, sink⟩ state calls)
      (session ⟨.ofTable address pages, reportBase, sink⟩ state calls) := by
  have related := @refines_related _ c lib peer _ table address reportBase sink
  induction calls generalizing state with
  | nil => exact .nil
  | cons call rest ih =>
      rw [session] at asks
      obtain ⟨now, later⟩ := List.forall_mem_cons.mp asks
      have refines := related.perform call state now
      rw [session, session]
      refine .cons refines ?_
      -- The next call starts where this one left the sink, which is the same place in both.
      rw [refines.state]
      exact ih _ later

/-- A session over a client refines the one over the pages in memory, call by call, where plain paths
are asked for and the library delivers what is at them. Both read the first page at a path, or find
that there is none, and make the same of it. -/
theorem session_over_client (table : IsTable pages) (address reportBase : String) (sink : Sink σ)
    (state : σ) (calls : List Call)
    (plain : ∀ outcome ∈ session ⟨.ofTable address pages, reportBase, sink⟩ state calls,
      ∀ fetch ∈ fetches outcome.trace, IsPlainPath fetch.1)
    (delivers : ∀ outcome ∈ session ⟨.ofTable address pages, reportBase, sink⟩ state calls,
      ∀ fetch ∈ fetches outcome.trace, IsPlainPath fetch.1 →
        ∃ url answer, c.Delivers lib peer pages fetch.1 url answer) :
    List.Forall₂ (Outcome.Refines c address)
        (session ⟨c.sourceOver lib peer, reportBase, sink⟩ state calls)
        (session ⟨.ofTable address pages, reportBase, sink⟩ state calls) ∧
      ∀ path resource, ∃ page, Page.IsAt pages path page ∧
        page.Reads resource (address ++ path) (Source.ofTable address pages path resource ()).result ∧
        ∀ url answer, c.Delivers lib peer pages path url answer →
          page.Reads resource (c.address ++ path) (c.sourceOver lib peer path resource ()).result ∧
            sent (c.sourceOver lib peer path resource ()).trace = [c.request path] := by
  constructor
  · apply session_refines table address reportBase sink state calls
    intro outcome member fetch asked
    exact delivers outcome member fetch asked (plain outcome member fetch asked)
  · intro path resource
    obtain ⟨-, text, body, -⟩ := table.of_findPage path
    refine ⟨findPage pages path, findPage_isAt pages path, ?_, ?_⟩
    · rw [Source.ofTable, Traced.ofExcept_apply]
      exact readPage_reads body resource (address ++ path)
    · intro url answer delivered
      obtain ⟨read, seen⟩ := Client.sourceOver_delivered delivered table resource
      rw [read, c.url_eq]
      exact ⟨readPage_reads body resource (c.address ++ path), seen⟩

/-- An empty report, a property without thresholds, a page that is no JSON, and one that is refused. -/
def mixedPages : List Page :=
  [⟨"/reports/Power", 200, Utf8.encode "\x7b\x7d", true⟩,
   ⟨"/a", 200, Utf8.encode ("\x7b\"UnitModifier\":0,\"LowerThresholdCritical\":null," ++
      "\"LowerThresholdNonCritical\":null,\"UpperThresholdCritical\":null," ++
      "\"UpperThresholdNonCritical\":null\x7d"), true⟩,
   ⟨"/b", 200, Utf8.encode "none", true⟩,
   ⟨"/c", 503, Utf8.encode "later", true⟩]

/-- Pages are read in all the ways there are: as a document, as no JSON, and with a status, also
where there is no page. -/
theorem session_over_client_mixed :
    let server : Server := ⟨"[::1]", 80, mixedPages⟩
    let c : Client := ⟨"http", "[::1]", "root", "calvin"⟩
    let memory : Lookup Unit := ⟨.ofTable "https://idrac" mixedPages, "/reports/", .silent⟩
    let real : Lookup Unit := ⟨c.source server, "/reports/", .silent⟩
    let calls : List Call :=
      [.run "Power", .report "/a#x", .report "/b", .report "/c", .report "/d"]
    let seen (l : Lookup Unit) := (l.session () calls).map fun outcome =>
      ((fetches outcome.trace).map Prod.fst, match outcome.result with
        | .ok _ => "done"
        | .error failure => failure.message)
    let ends (address : String) : List (List String × String) :=
      [(["/reports/Power"], "done"), (["/a"], "done"),
       (["/b"], s!"FAIL, attributes at {address}/b is not valid JSON"),
       (["/c"], "FAIL, status code for reading attributes is not 200, " ++
          s!"code is: 503 ({address}/c)"),
       (["/d"], "FAIL, status code for reading attributes is not 200, " ++
          s!"code is: 404 ({address}/d)")]
    IsTable mixedPages ∧
      (∀ outcome ∈ memory.session () calls, ∀ fetch ∈ fetches outcome.trace,
        IsPlainPath fetch.1) ∧
      (∀ outcome ∈ memory.session () calls, ∀ fetch ∈ fetches outcome.trace,
        IsPlainPath fetch.1 →
          ∃ url answer, c.Delivers .plain server.peer mixedPages fetch.1 url answer) ∧
      List.Forall₂ (Outcome.Refines c "https://idrac") (real.session () calls)
        (memory.session () calls) ∧
      seen memory = ends "https://idrac" ∧ seen real = ends "http://[::1]" := by
  intro server c memory real calls seen ends
  have table : IsTable mixedPages := by
    constructor
    · decide
    · simp only [mixedPages, List.forall_mem_cons]
      exact ⟨⟨_, rfl, by decide⟩, ⟨_, rfl, by decide +kernel⟩, ⟨_, rfl, by decide⟩,
        ⟨_, rfl, by decide⟩, List.forall_mem_nil _⟩
  have addresses : c.Addresses server.host server.port :=
    ⟨.inl rfl, List.all_eq_true.mp (by decide), by decide +kernel⟩
  have inMemory : seen memory = ends "https://idrac" := by decide +kernel
  have fine : ∀ path ∈ ["/reports/Power", "/a", "/b", "/c", "/d"],
      IsPlainPath path ∧
        (Url.mk c.scheme server.host server.port path).size ≤ HttpLibrary.maxSize := by
    decide +kernel
  have asked : ∀ outcome ∈ memory.session () calls, ∀ fetch ∈ fetches outcome.trace,
      fetch.1 ∈ ["/reports/Power", "/a", "/b", "/c", "/d"] := by
    intro outcome member fetch fetched
    have listed : fetch.1 ∈ (seen memory).flatMap Prod.fst := by
      simp only [seen, List.flatMap_map, List.mem_flatMap]
      exact ⟨outcome, member, List.mem_map_of_mem fetched⟩
    rw [inMemory] at listed
    exact listed
  have plain : ∀ outcome ∈ memory.session () calls, ∀ fetch ∈ fetches outcome.trace,
      IsPlainPath fetch.1 := fun outcome member fetch fetched =>
    (fine _ (asked outcome member fetch fetched)).1
  have delivers : ∀ outcome ∈ memory.session () calls, ∀ fetch ∈ fetches outcome.trace,
      IsPlainPath fetch.1 →
        ∃ url answer, c.Delivers .plain server.peer mixedPages fetch.1 url answer := by
    intro outcome member fetch fetched isPlain
    exact ⟨_, _, server.delivers rfl addresses table (by decide) isPlain
      (fine _ (asked outcome member fetch fetched)).2⟩
  exact ⟨table, plain, delivers,
    (session_over_client table "https://idrac" "/reports/" .silent () calls plain delivers).1,
    inMemory, by decide +kernel⟩

end Lookup
end SensorThresholds
