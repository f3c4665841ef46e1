import SensorThresholds.Http
import SensorThresholds.Proofs.Base64Reading
import SensorThresholds.Proofs.JsonGrammar
import SensorThresholds.Proofs.Trace
import SensorThresholds.Proofs.Utf8Reading

/-!
What comes of one document that a client asks for: whether a request is sent, what is in it, and
what is made of the answer. Several things can be wrong with an answer, and the order in which they
are looked at decides which of them is the error.
-/

namespace SensorThresholds

/-- The texts of bytes that may start with a mark. -/
inductive IsText : List UInt8 → String → Prop where
  | marked {rest : List UInt8} {text : String} (repairs : Utf8.Repairs rest text.toList) :
      IsText (0xEF :: 0xBB :: 0xBF :: rest) text
  | little (rest : List UInt8) : IsText (0xFF :: 0xFE :: rest) (Utf16.decode .little rest)
  | big (rest : List UInt8) : IsText (0xFE :: 0xFF :: rest) (Utf16.decode .big rest)
  | unmarked {bytes : List UInt8} {text : String}
      (mark : ∀ mark ∈ [[0xEF, 0xBB, 0xBF], [0xFF, 0xFE], [0xFE, 0xFF]], ¬ mark <+: bytes)
      (repairs : Utf8.Repairs bytes text.toList) : IsText bytes text

theorem isText_decodeMarked (bytes : List UInt8) : IsText bytes (decodeMarked bytes) := by
  unfold decodeMarked
  split
  · exact .marked (Utf8.repairs_iff.mpr rfl)
  · exact .little _
  · exact .big _
  · next utf8 little big =>
      refine .unmarked ?_ (Utf8.repairs_iff.mpr rfl)
      simp only [List.mem_cons, List.not_mem_nil, or_false]
      rintro _ (rfl | rfl | rfl) ⟨rest, rfl⟩
      · exact utf8 rest rfl
      · exact little rest rfl
      · exact big rest rfl

namespace Answer

variable (lib : HttpLibrary) (answer : Answer)

/-- The bytes that come with an answer: its body, if all of it is there, and unpacked if it is
packed. -/
inductive Holds : List UInt8 → Prop where
  | unpacked (whole : answer.complete = true) (plain : answer.encoding = none) : Holds answer.body
  | packed {encoding : String} {bytes : List UInt8} (whole : answer.complete = true)
      (named : answer.encoding = some encoding)
      (unpack : lib.unpack? encoding answer.body = some bytes) : Holds bytes

/-- The text of an answer. The library knows the character sets that go by a name. -/
inductive HasText : String → Prop where
  | marked {bytes : List UInt8} {text : String} (holds : answer.Holds lib bytes)
      (plain : answer.charset = none) (isText : IsText bytes text) : HasText text
  | named {bytes : List UInt8} {charset : String} (holds : answer.Holds lib bytes)
      (named : answer.charset = some charset) : HasText (lib.read charset bytes)

/-- What is made of an answer. An answer that is not final is never taken for one. -/
inductive Gives (resource : Resource) (address : String) : Except Failure Document → Prop where
  | endless (more : Server.isFinal answer.status = false) :
      Gives resource address (.error (.request resource address))
  | refused (final : Server.isFinal answer.status = true)
      (status : ¬ (200 ≤ answer.status ∧ answer.status ≤ 299)) :
      Gives resource address (.error (.status resource address answer.status))
  | brokenOff (status : 200 ≤ answer.status ∧ answer.status ≤ 299)
      (cut : answer.complete = false) :
      Gives resource address (.error (.request resource address))
  | spoilt {encoding : String} (status : 200 ≤ answer.status ∧ answer.status ≤ 299)
      (named : answer.encoding = some encoding)
      (unpack : lib.unpack? encoding answer.body = none) :
      Gives resource address (.error (.request resource address))
  | notJson {text : String} (status : 200 ≤ answer.status ∧ answer.status ≤ 299)
      (body : answer.HasText lib text) (other : ¬ ∃ document, Document.Denoted text document) :
      Gives resource address (.error (.notJson resource address))
  | document {text : String} {document : Document}
      (status : 200 ≤ answer.status ∧ answer.status ≤ 299) (body : answer.HasText lib text)
      (denoted : Document.Denoted text document) :
      Gives resource address (.ok document)

variable {lib : HttpLibrary} {answer : Answer}

theorem holds_of_content? {bytes : List UInt8} (found : lib.content? answer = some bytes) :
    answer.Holds lib bytes := by
  unfold HttpLibrary.content? at found
  split at found
  · next whole =>
      cases named : answer.encoding with
      | none =>
          rw [named] at found
          obtain rfl := Option.some.inj found
          exact .unpacked whole named
      | some encoding =>
          rw [named] at found
          exact .packed whole named found
  · cases found

theorem hasText_of_text? {text : String} (found : lib.text? answer = some text) :
    answer.HasText lib text := by
  obtain ⟨bytes, held, rfl⟩ := Option.map_eq_some_iff.mp found
  have holds := holds_of_content? held
  unfold HttpLibrary.textOf
  cases named : answer.charset with
  | none => exact .marked holds named (isText_decodeMarked bytes)
  | some charset => exact .named holds named

/-- An answer without a text breaks off, or is not well packed. -/
theorem lost_of_text? (lost : lib.text? answer = none) :
    answer.complete = false ∨ ∃ encoding, answer.encoding = some encoding ∧
      lib.unpack? encoding answer.body = none := by
  rw [HttpLibrary.text?, Option.map_eq_none_iff] at lost
  unfold HttpLibrary.content? at lost
  split at lost
  · cases named : answer.encoding with
    | none =>
        rw [named] at lost
        cases lost
    | some encoding =>
        rw [named] at lost
        exact .inr ⟨encoding, rfl, lost⟩
  · next cut => exact .inl (Bool.eq_false_iff.mpr cut)

end Answer

/-- The requests that reach a peer. -/
def sent (trace : List SourceEvent) : List Request :=
  Trace.requests (trace.map SourceEvent.toEvent)

theorem sent_append (first second : List SourceEvent) :
    sent (first ++ second) = sent first ++ sent second := by
  rw [sent, List.map_append, Trace.requests_append, sent, sent]

theorem sent_debug (text : String) : sent [.debug text] = [] := rfl

namespace Client

/-- What reaches the peer: the target, and the credentials of the client. -/
structure Asks (c : Client) (target : String) (request : Request) : Prop where
  method : request.method = "GET"
  target : request.target = target
  contentType : request.contentType = "application/json"
  authorization : ∃ credentials, request.authorization = "Basic " ++ .ofList credentials ∧
    Base64.decode? credentials =
      some (Utf8.encode c.user ++ Utf8.encode ":" ++ Utf8.encode c.password)

theorem asks_request (c : Client) (target : String) : c.Asks target (c.request target) where
  method := rfl
  target := rfl
  contentType := rfl
  authorization := by
    refine ⟨_, rfl, ?_⟩
    rw [Base64.decode?_encode, ← Utf8.encode_append, ← Utf8.encode_append]
    rfl

theorem isSuccess_iff (status : Nat) : isSuccess status = true ↔ 200 ≤ status ∧ status ≤ 299 := by
  rw [isSuccess, Bool.and_eq_true, decide_eq_true_iff, decide_eq_true_iff, Nat.lt_succ_iff]

/-- What answers the first request for a path, and the address that it comes from. There is nothing
where the address is no URL or where the connection is refused. -/
def answer? (c : Client) (lib : HttpLibrary) (peer : Peer) (path : String) :
    Option (Url × Answer) :=
  (lib.address? (c.url path)).bind fun url =>
    (peer url (c.request url.target)).map fun answer => (url, answer)

variable {c : Client} {lib : HttpLibrary} {peer : Peer} {path : String} {url : Url}
  {answer : Answer} {r : Request}

theorem hop_first (lib : HttpLibrary) (replied : peer url r = some answer) (failure : Failure)
    (follow : Onward → SourceAction Answer) :
    ∃ rest, (hop lib peer failure url r follow ()).trace = .request r :: rest := by
  rw [hop, replied]
  dsimp only
  rw [Traced.bind_of_ok (Traced.emit_apply _ _)]
  exact ⟨_, rfl⟩

theorem hop_of_stays (replied : peer url r = some answer)
    (stays : Server.isFinal answer.status = true → lib.onward? url answer = none)
    (failure : Failure) (follow : Onward → SourceAction Answer) :
    hop lib peer failure url r follow () =
      ⟨[.request r], (), if Server.isFinal answer.status then .ok answer else .error failure⟩ := by
  rw [hop, replied]
  dsimp only
  rw [Traced.bind_of_ok (Traced.emit_apply _ _)]
  cases final : Server.isFinal answer.status with
  | false => rfl
  | true =>
      rw [stays final]
      rfl

/-- A request that is answered is the first one that is seen. -/
theorem send_first (lib : HttpLibrary) (replied : peer url r = some answer) (failure : Failure)
    (hops : Nat) :
    ∃ rest, (send lib peer failure hops url r ()).trace = .request r :: rest := by
  cases hops <;> exact hop_first lib replied failure _

/-- An answer that is not followed is the only one. -/
theorem send_of_stays (replied : peer url r = some answer)
    (stays : Server.isFinal answer.status = true → lib.onward? url answer = none)
    (failure : Failure) (hops : Nat) :
    send lib peer failure hops url r () =
      ⟨[.request r], (), if Server.isFinal answer.status then .ok answer else .error failure⟩ := by
  cases hops <;> exact hop_of_stays replied stays failure _

theorem send_of_none (silent : peer url r = none) (failure : Failure) (hops : Nat) :
    send lib peer failure hops url r () = ⟨[], (), .error failure⟩ := by
  cases hops <;> rw [send, hop, silent] <;> rfl

theorem exchange_of_none (silent : c.answer? lib peer path = none) (failure : Failure) :
    c.exchange lib peer failure (c.url path) () = ⟨[], (), .error failure⟩ := by
  unfold answer? at silent
  unfold exchange
  cases parsed : lib.address? (c.url path) with
  | none => rfl
  | some url =>
      rw [parsed, Option.bind_some, Option.map_eq_none_iff] at silent
      exact send_of_none silent failure maxHops

theorem exchange_of_some (answered : c.answer? lib peer path = some (url, answer))
    (failure : Failure) :
    peer url (c.request url.target) = some answer ∧
      c.exchange lib peer failure (c.url path) =
        send lib peer failure maxHops url (c.request url.target) := by
  obtain ⟨_, parsed, found⟩ := Option.bind_eq_some_iff.mp answered
  obtain ⟨_, replied, same⟩ := Option.map_eq_some_iff.mp found
  obtain ⟨rfl, rfl⟩ := Prod.mk.inj same
  rw [exchange, parsed]
  exact ⟨replied, rfl⟩

theorem receive_of_text {text : String} (success : isSuccess answer.status = true)
    (found : lib.text? answer = some text) (resource : Resource) (address : String) :
    ∃ entry, receive lib resource address answer () =
      ⟨[.debug entry], (), match Document.read? text with
        | some document => .ok document
        | none => .error (.notJson resource address)⟩ := by
  rw [receive, if_pos success, found]
  dsimp only
  rw [Traced.bind_of_ok (Traced.emit_apply _ _)]
  cases Document.read? text <;> exact ⟨_, rfl⟩

theorem receive_of_lost (success : isSuccess answer.status = true)
    (lost : lib.text? answer = none) (resource : Resource) (address : String) :
    receive lib resource address answer () = ⟨[], (), .error (.request resource address)⟩ := by
  rw [receive, if_pos success, lost]
  rfl

theorem receive_gives (final : Server.isFinal answer.status = true) (resource : Resource)
    (address : String) :
    answer.Gives lib resource address (receive lib resource address answer ()).result := by
  cases success : isSuccess answer.status with
  | false =>
      have status : ¬ (200 ≤ answer.status ∧ answer.status ≤ 299) := by
        rw [← isSuccess_iff, success]
        exact Bool.false_ne_true
      rw [receive, success]
      exact .refused final status
  | true =>
      have status := (isSuccess_iff answer.status).mp success
      cases found : lib.text? answer with
      | none =>
          rw [receive_of_lost success found]
          rcases Answer.lost_of_text? found with cut | ⟨encoding, named, unpack⟩
          · exact .brokenOff status cut
          · exact .spoilt status named unpack
      | some text =>
          obtain ⟨entry, received⟩ := receive_of_text success found resource address
          have body := Answer.hasText_of_text? found
          rw [received]
          cases read : Document.read? text with
          | none => exact .notJson status body (Document.read?_eq_none_iff.mp read)
          | some document => exact .document status body (Document.read?_eq_some_iff.mp read)

/-- What is done with an answer goes to the log only. -/
theorem sent_receive (lib : HttpLibrary) (resource : Resource) (address : String)
    (answer : Answer) : sent (receive lib resource address answer ()).trace = [] := by
  cases success : isSuccess answer.status with
  | false =>
      rw [receive, success]
      rfl
  | true =>
      cases found : lib.text? answer with
      | none =>
          rw [receive_of_lost success found]
          rfl
      | some text =>
          obtain ⟨entry, received⟩ := receive_of_text success found resource address
          rw [received]
          rfl

theorem sourceOver_of_error {resource : Resource} {trace : List SourceEvent} {failure : Failure}
    (exchanged : c.exchange lib peer (.request resource (c.url path)) (c.url path) () =
      ⟨trace, (), .error failure⟩) :
    (c.sourceOver lib peer path resource ()).result = .error failure ∧
      sent (c.sourceOver lib peer path resource ()).trace = sent trace := by
  rw [sourceOver, Traced.bind_of_ok (Traced.emit_apply _ _), Traced.bind_of_error exchanged]
  exact ⟨rfl, rfl⟩

theorem sourceOver_of_ok {resource : Resource} {trace : List SourceEvent}
    (exchanged : c.exchange lib peer (.request resource (c.url path)) (c.url path) () =
      ⟨trace, (), .ok answer⟩) :
    (c.sourceOver lib peer path resource ()).result =
        (receive lib resource (c.url path) answer ()).result ∧
      sent (c.sourceOver lib peer path resource ()).trace = sent trace := by
  rw [sourceOver, Traced.bind_of_ok (Traced.emit_apply _ _), Traced.bind_of_ok exchanged]
  refine ⟨rfl, ?_⟩
  rw [sent_append, sent_debug, List.nil_append, sent_append, sent_receive, List.append_nil]

theorem sent_sourceOver (c : Client) (lib : HttpLibrary) (peer : Peer) (path : String)
    (resource : Resource) :
    sent (c.sourceOver lib peer path resource ()).trace =
      sent (c.exchange lib peer (.request resource (c.url path)) (c.url path) ()).trace := by
  rcases exchanged : c.exchange lib peer (.request resource (c.url path)) (c.url path) () with
    ⟨trace, _, failure | answer⟩
  · exact (sourceOver_of_error exchanged).2
  · exact (sourceOver_of_ok exchanged).2

/-- An answer that is not followed is all that is asked for and all that is read. -/
theorem sourceOver_of_stays (answered : c.answer? lib peer path = some (url, answer))
    (stays : Server.isFinal answer.status = true → lib.onward? url answer = none)
    (resource : Resource) :
    (c.sourceOver lib peer path resource ()).result =
        (if Server.isFinal answer.status then (receive lib resource (c.url path) answer ()).result
        else .error (.request resource (c.url path))) ∧
      sent (c.sourceOver lib peer path resource ()).trace = [c.request url.target] := by
  obtain ⟨replied, exchanged⟩ := exchange_of_some answered (.request resource (c.url path))
  have alone := send_of_stays replied stays (.request resource (c.url path)) maxHops
  rw [← exchanged] at alone
  cases final : Server.isFinal answer.status with
  | false =>
      rw [final] at alone
      exact sourceOver_of_error alone
  | true =>
      rw [final] at alone
      exact sourceOver_of_ok alone

/-- Nothing is sent where nothing answers. What answers the first request decides, unless it is
followed to another address; then there is one request and no other. -/
theorem sourceOver_outcome (c : Client) (lib : HttpLibrary) (peer : Peer) (path : String)
    (resource : Resource) :
    let address := c.url path
    let outcome := c.sourceOver lib peer path resource ()
    match c.answer? lib peer path with
    | none => sent outcome.trace = [] ∧ outcome.result = .error (.request resource address)
    | some (url, answer) =>
      ∃ request rest, sent outcome.trace = request :: rest ∧ c.Asks url.target request ∧
        ((Server.isFinal answer.status = true → lib.onward? url answer = none) →
          rest = [] ∧ answer.Gives lib resource address outcome.result) := by
  intro address outcome
  split
  · next silent =>
      exact (sourceOver_of_error (exchange_of_none silent (.request resource address))).symm
  · next url answer answered =>
      obtain ⟨replied, exchanged⟩ := exchange_of_some answered (.request resource address)
      obtain ⟨rest, first⟩ :=
        send_first lib replied (.request resource address) maxHops
      rw [← exchanged] at first
      have seen : sent outcome.trace = c.request url.target :: sent rest := by
        rw [sent_sourceOver, first]
        rfl
      refine ⟨c.request url.target, sent rest, seen, c.asks_request url.target, ?_⟩
      intro stays
      obtain ⟨result, alone⟩ := sourceOver_of_stays answered stays resource
      refine ⟨(List.cons.inj (seen.symm.trans alone)).2, ?_⟩
      rw [show outcome.result = _ from result]
      cases final : Server.isFinal answer.status with
      | false => exact .endless final
      | true => exact receive_gives final resource address

/-- An empty object as `gzip` packs it. -/
def packedObject : List UInt8 :=
  [0x1F, 0x8B, 0x08, 0x00, 0x00, 0x00, 0x00, 0x00, 0x02, 0x03, 0xAB, 0xAE, 0x05, 0x00, 0x43, 0xBF,
   0xA6, 0xA3, 0x02, 0x00, 0x00, 0x00]

/-- An empty object that is said to be packed and is not. -/
def spoiltAnswer : Answer := ⟨⟨"/spoilt", 200, Utf8.encode "{}", true⟩, none, some "gzip", none⟩

/-- Answers that are not just a page in UTF-8: one in UTF-16, two that are not final, one that leads
to another page, one that is packed and one that should be, and one in another character set. -/
def oddAnswers : List Answer :=
  [.ofPage ⟨"/utf16", 200, [0xFF, 0xFE, 0x7B, 0x00, 0x7D, 0x00], true⟩,
   .ofPage ⟨"/interim", 103, [], true⟩,
   .ofPage ⟨"/beyond", 1000, [], true⟩,
   ⟨⟨"/moved", 308, [], true⟩, some "/here", none, none⟩,
   .ofPage ⟨"/here", 200, Utf8.encode "{}", true⟩,
   ⟨⟨"/packed", 200, packedObject, true⟩, none, some "gzip", none⟩,
   spoiltAnswer,
   ⟨⟨"/latin", 200, [0x7B, 0x22, 0xE9, 0x22, 0x3A, 0x31, 0x7D], true⟩, none, none,
    some "iso-8859-1"⟩]

def oddPeer : Peer := fun _ r => oddAnswers.find? (·.path == r.target)

/-- A library as far as these answers need one. -/
def oddLibrary : HttpLibrary :=
  { HttpLibrary.plain with
    onward? := fun url answer =>
      if answer.status = 308 then
        answer.location.map fun target => ⟨{ url with target }, true, true⟩
      else none
    unpack? := fun encoding bytes =>
      if encoding = "gzip" ∧ bytes = packedObject then some (Utf8.encode "{}") else none
    read := fun _ bytes => .ofList (bytes.map fun byte => .ofNat byte.toNat) }

/-- A body in UTF-16 and a packed one are taken for documents, though as UTF-8 they are no JSON. One
in another character set is taken for another document than as UTF-8. Behind an interim status, or
one that is none, there is no answer, and a body that is not packed as it should be does not arrive.
An answer that leads elsewhere makes two requests and is no failure. -/
theorem sourceOver_odd_answers :
    let c : Client := ⟨"http", "127.0.0.1", "root", "calvin"⟩
    let ask (path : String) := c.sourceOver oddLibrary oddPeer path .report ()
    let utf16 : List UInt8 := [0xFF, 0xFE, 0x7B, 0x00, 0x7D, 0x00]
    let latin : List UInt8 := [0x7B, 0x22, 0xE9, 0x22, 0x3A, 0x31, 0x7D]
    ((∀ text ∈ [Utf8.decode utf16, Utf8.decode (utf16.drop 2)],
          ¬ ∃ document, Document.Denoted text document) ∧
        (ask "/utf16").result.isOk = true) ∧
      (∀ path ∈ ["/interim", "/beyond", "/spoilt"],
        (ask path).result = .error (.request .report (c.url path))) ∧
      ((sent (ask "/moved").trace).map Request.target = ["/moved", "/here"] ∧
        (ask "/moved").result.isOk = true) ∧
      ((¬ ∃ document, Document.Denoted (Utf8.decode packedObject) document) ∧
        (ask "/packed").result.isOk = true) ∧
      ∃ document, Document.Denoted (Utf8.decode latin) document ∧
        (ask "/latin").result.isOk = true ∧ (ask "/latin").result ≠ .ok document := by
  intro c ask utf16 latin
  have unreadable {text : String} (unread : (Document.read? text).isNone = true) :
      ¬ ∃ document, Document.Denoted text document :=
    Document.read?_eq_none_iff.mp (Option.isNone_iff_eq_none.mp unread)
  have unread : ∀ text ∈ [Utf8.decode utf16, Utf8.decode (utf16.drop 2)],
      (Document.read? text).isNone = true := by decide +kernel
  have endless {path : String} {url : Url} {answer : Answer}
      (answered : c.answer? oddLibrary oddPeer path = some (url, answer))
      (never : Server.isFinal answer.status = false) :
      (ask path).result = .error (.request .report (c.url path)) := by
    have result := (sourceOver_of_stays answered (by simp [never]) .report).1
    rw [never] at result
    exact result
  have interim : c.answer? oddLibrary oddPeer "/interim" =
      some (⟨"http", "127.0.0.1", 80, "/interim"⟩, .ofPage ⟨"/interim", 103, [], true⟩) := by
    decide +kernel
  have beyond : c.answer? oddLibrary oddPeer "/beyond" =
      some (⟨"http", "127.0.0.1", 80, "/beyond"⟩, .ofPage ⟨"/beyond", 1000, [], true⟩) := by
    decide +kernel
  have spoilt : c.answer? oddLibrary oddPeer "/spoilt" =
      some (⟨"http", "127.0.0.1", 80, "/spoilt"⟩, spoiltAnswer) := by decide +kernel
  have success : isSuccess spoiltAnswer.status = true := by decide
  have lost : oddLibrary.text? spoiltAnswer = none := by decide +kernel
  refine ⟨⟨fun text member => unreadable (unread text member), by decide +kernel⟩, ?_,
    ⟨by decide +kernel, by decide +kernel⟩, ⟨unreadable (by decide +kernel), by decide +kernel⟩, ?_⟩
  · simp only [List.forall_mem_cons]
    refine ⟨endless interim (by decide), endless beyond (by decide), ?_, List.forall_mem_nil _⟩
    rw [show (ask "/spoilt").result = _ from (sourceOver_of_stays spoilt (fun _ => rfl) .report).1,
      if_pos (by decide), receive_of_lost success lost]
  · obtain ⟨document, read⟩ := Option.isSome_iff_exists.mp
      (show (Document.read? (Utf8.decode latin)).isSome = true by decide +kernel)
    refine ⟨document, Document.read?_eq_some_iff.mp read, by decide +kernel, ?_⟩
    intro same
    have named : ((ask "/latin").result.toOption.bind (Json.get? "é")).isSome = true := by
      decide +kernel
    have unnamed : ((Document.read? (Utf8.decode latin)).bind (Json.get? "é")).isSome = false := by
      decide +kernel
    rw [same] at named
    rw [read] at unnamed
    exact Bool.false_ne_true (unnamed.symm.trans named)

end Client
end SensorThresholds
