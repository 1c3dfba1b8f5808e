import SealGate.Proofs.Origin.Exchange

/-! Exchanges that take too long. There may be no connection in time, no answer over it, or no end of
an answer that has begun. Whatever is sent, fetched or relayed, the first two are a timeout; the end
of an answer is waited for only where it is read into memory, and if an object is fetched this is a
timeout as well. -/

namespace SealGate.Origin

open Http

/-- What is awaited of the origin. -/
inductive Awaited
  /-- An answer, which may still go on. -/
  | answer (request : Request)
  /-- All of a stored object, or of a piece of it. -/
  | object (name : String) (range : Option String)
  /-- All of the body of an answer. -/
  | body (request : Request)

/-- The request that is made for it. -/
def Awaited.request : Awaited → Request
  | .answer request => request
  | .object name range => Link.objectRequest name range
  | .body request => request

namespace Link

variable {link : Link} {request : Request} {response : Response ReadFault} {name : String}
  {range : Option String}

/-- No answer to a request begins in time. -/
inductive IsLate (link : Link) (request : Request) : Prop
  | unconnected : link.reply link.sent request = .ok .unconnected → IsLate link request
  | silent : link.reply link.sent request = .ok .silent → IsLate link request

/-- An answer begins and does not end in time. -/
structure Stalls (link : Link) (request : Request) (response : Response ReadFault) : Prop where
  answered : link.reply link.sent request = .ok (.response response)
  stalled : response.body.collect = .error .timedOut

end Link

/-- What is awaited does not come in time. -/
def Awaited.IsLate (link : Link) : Awaited → Prop
  | .answer request => link.IsLate request
  | .object name range => link.IsLate (Link.objectRequest name range) ∨
      ∃ response, link.Stalls (Link.objectRequest name range) response ∧
        (response.status = 200 ∨ response.status = 206)
  | .body request => ∃ response, link.Stalls request response

namespace Link

variable {link : Link} {request : Request} {name : String} {range : Option String}

theorem Fails.timeout {error : Vault.Error} (fails : Fails link request error)
    (late : link.IsLate request) : error = .timeout := by
  cases late with
  | unconnected given => cases fails <;> simp_all
  | silent given => cases fails <;> simp_all

theorem send_of_late (late : link.IsLate request) : (link.send request).1 = .error .timeout := by
  rcases send_cases request link with ⟨response, given, -⟩ | ⟨error, fails, sent⟩
  · cases late with
    | unconnected none => rw [none] at given; cases given
    | silent none => rw [none] at given; cases given
  · rw [sent, fails.timeout late]

/-- A late object is a timeout, however much of it came in time. -/
theorem fetch_of_late (late : (Awaited.object name range).IsLate link) :
    (link.fetch name range).1 = .error .timeout := by
  rcases late with late | ⟨response, stalls, good⟩
  · have sent := send_of_late late
    rw [fetch]
    simp only [sent]
    rfl
  · rw [fetch_of_good stalls.answered good, stalls.stalled]
    rfl

theorem stream_of_late (late : (Awaited.answer (objectRequest name range)).IsLate link) :
    (link.stream name range).1 = .error .timeout := by
  have sent := send_of_late late
  rw [stream]
  simp only [sent]
  rfl

theorem relay_of_late (late : (Awaited.answer (relayed request)).IsLate link) :
    (link.relay request).1 = .error .timeout := by
  have sent := send_of_late late
  rw [relay]
  simp only [sent]
  rfl

theorem body_of_objectOf {response : Response ReadFault} {body : Body ReadFault}
    (opened : objectOf response = .ok body) : body = response.body := by
  unfold objectOf at opened
  split at opened
  · exact (Except.ok.inj opened).symm
  · split at opened <;> cases opened

/-- The chunks of an object are late where those of the answer are. -/
theorem stream_chunks {response : Response ReadFault}
    {chunks : List (Except Vault.Error Bytes)}
    (answered : link.reply link.sent (objectRequest name range) = .ok (.response response))
    (streamed : (link.stream name range).1 = .ok chunks) :
    .error .timeout ∈ chunks ↔ .error .timedOut ∈ response.body.items := by
  have same : chunks = (response.body.mapError ReadFault.toError).items := by
    rw [stream, send_of_response answered] at streamed
    cases opened : objectOf response with
    | error error => simp only [bind, Except.bind, opened] at streamed; cases streamed
    | ok body =>
      obtain rfl := body_of_objectOf opened
      simp only [bind, Except.bind, opened] at streamed
      exact (Except.ok.inj streamed).symm
  rw [same]
  cases response.body with
  | buffered held =>
    simp only [Body.mapError, Body.items]
    split <;> simp
  | streamed items =>
    simp only [Body.mapError, Body.items, List.mem_map]
    constructor
    · rintro ⟨item, mem, late⟩
      cases item with
      | ok chunk => cases late
      | error fault =>
        cases fault with
        | broken => cases late
        | timedOut => exact mem
    · exact fun mem => ⟨_, mem, rfl⟩

/-- A link has its own timeouts told as such, whatever is asked over it. -/
structure TellsTimeouts (link : Link) : Prop where
  fetch : ∀ name range, (Awaited.object name range).IsLate link →
    (link.fetch name range).1 = .error .timeout
  stream : ∀ name range, (Awaited.answer (objectRequest name range)).IsLate link →
    (link.stream name range).1 = .error .timeout
  chunks : ∀ name range response chunks,
    link.reply link.sent (objectRequest name range) = .ok (.response response) →
    (link.stream name range).1 = .ok chunks →
    (.error .timeout ∈ chunks ↔ .error .timedOut ∈ response.body.items)
  relay : ∀ request, (Awaited.answer (relayed request)).IsLate link →
    (link.relay request).1 = .error .timeout

theorem tellsTimeouts (link : Link) : link.TellsTimeouts where
  fetch _ _ := fetch_of_late
  stream _ _ := stream_of_late
  chunks _ _ _ _ := stream_chunks
  relay _ := relay_of_late

end Link

end SealGate.Origin
