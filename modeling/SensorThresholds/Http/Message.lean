import SensorThresholds.Http

/-!
Messages as bytes. A request asks for the connection to be closed, so that an answer ends where the
bytes end at the latest; what its head promises decides whether the body is complete.
-/

namespace SensorThresholds.Message

abbrev Bytes := List UInt8

def lineEnd : String := "\x0d\n"

/-- The bytes of a request to a host. -/
def ofRequest (host : String) (r : Request) : Bytes :=
  Utf8.encode (String.join ([s!"{r.method} {r.target} HTTP/1.1", s!"host: {host}",
    s!"authorization: {r.authorization}", s!"content-type: {r.contentType}", "accept: */*",
    "connection: close", ""].map (· ++ lineEnd)))

/-- The first line without its end, and what follows it. -/
def line? : Bytes → Option (Bytes × Bytes)
  | [] => none
  | 13 :: 10 :: rest => some ([], rest)
  | b :: rest => (line? rest).map fun (line, left) => (b :: line, left)

theorem length_line? {bytes line left : Bytes} (h : line? bytes = some (line, left)) :
    left.length < bytes.length := by
  fun_induction line? bytes generalizing line left with
  | case1 => simp at h
  | case2 rest =>
    obtain ⟨_, rfl⟩ := by simpa using h
    simp only [List.length_cons]
    omega
  | case3 b rest _ ih =>
    obtain ⟨⟨_, _⟩, found, same⟩ := Option.map_eq_some_iff.1 h
    obtain ⟨_, rfl⟩ := by simpa using same
    have := ih found
    simp only [List.length_cons]
    omega

/-- The lines up to an empty one, and what follows that. -/
def head? (bytes : Bytes) : Option (List String × Bytes) :=
  match _ : line? bytes with
  | none => none
  | some ([], left) => some ([], left)
  | some (line, left) => (head? left).map fun (lines, body) => (Utf8.decode line :: lines, body)
termination_by bytes.length
decreasing_by exact length_line? ‹_›

theorem length_head? {bytes body : Bytes} {lines : List String}
    (h : head? bytes = some (lines, body)) : body.length < bytes.length := by
  fun_induction head? bytes generalizing lines body with
  | case1 => simp at h
  | case2 _ left found =>
    obtain ⟨_, rfl⟩ := by simpa using h
    exact length_line? found
  | case3 _ line left _ found ih =>
    obtain ⟨⟨_, _⟩, inner, same⟩ := Option.map_eq_some_iff.1 h
    obtain ⟨_, rfl⟩ := by simpa using same
    exact Nat.lt_trans (ih inner) (length_line? found)

/-- The status in the first line of an answer. -/
def status? (line : String) : Option Nat :=
  match line.splitOn " " with
  | _ :: code :: _ => if code.length = 3 then decimal? code.toList else none
  | _ => none

/-- What a head says under a name, whose case does not matter. -/
def header? (name : String) (lines : List String) : Option String :=
  lines.findSome? fun line =>
    if (line.toList.takeWhile (· ≠ ':')).map Char.toLower = name.toList then
      some (.ofList ((line.toList.dropWhile (· ≠ ':')).drop 1 |>.filter (· ≠ ' ')))
    else none

/-- The size that stands in front of a chunk. -/
def chunkSize? (line : Bytes) : Option Nat :=
  let digits := (Utf8.decode line).toList.takeWhile fun c => c ≠ ';' && c ≠ ' '
  if digits.isEmpty then none
  else numeral? 16 digits

/-- A body in chunks, up to the empty chunk that ends it, and whether that chunk is there. -/
def ofChunks (bytes : Bytes) : Bytes × Bool :=
  match _ : line? bytes with
  | none => ([], false)
  | some (line, left) =>
    match chunkSize? line with
    | none => ([], false)
    | some 0 => ([], true)
    | some size =>
      let (more, complete) := ofChunks (left.drop (size + 2))
      (left.take size ++ more, complete)
termination_by bytes.length
decreasing_by
  have := length_line? ‹_›
  simp only [List.length_drop]
  omega

/-- The body that follows a head, and whether all that was promised has come. -/
def body (lines : List String) (bytes : Bytes) : Bytes × Bool :=
  if header? "transfer-encoding" lines = some "chunked" then ofChunks bytes
  else
    match (header? "content-length" lines).bind (decimal? ·.toList) with
    | some size => (bytes.take size, size ≤ bytes.length)
    | none => (bytes, true)

/-- The page that an answer to a request for `target` holds. Answers that are not final are passed
over. -/
def page? (target : String) (bytes : Bytes) : Option Page :=
  match _ : head? bytes with
  | none => none
  | some (lines, rest) => do
    let code ← status? (← lines.head?)
    if Server.isFinal code then
      let (content, complete) := body lines rest
      return ⟨target, code, content, complete⟩
    else page? target rest
termination_by bytes.length
decreasing_by exact length_head? ‹_›

end SensorThresholds.Message
