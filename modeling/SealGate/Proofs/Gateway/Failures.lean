import SealGate.Proofs.Gateway.Waiting
import SealGate.Proofs.Wire.Formats

/-! What a client is told of a failure. A failure of the reader or of the lifecycle becomes an error
of the gateway in two steps, and the answer is a record that reads back as the message which the
failure had where it arose. Whatever fails while a request is served ends in such an answer. What
comes too late from the origin is told as a timeout, but for the body of the origin's description of
itself, whose reader has other words for it. -/

namespace SealGate.Gateway

open Http Session Json Origin

variable {ε : Type}

/-- A response tells of a failure: it has a status, and its body is a JSON record that reads back as
a message. -/
structure Reports (response : Response ε) (status : Nat) (message : String) : Prop where
  status : response.status = status
  headers : response.headers = [("content-type", Bytes.ofText "application/json")]
  body : ∃ bytes, response.body.collect = .ok bytes ∧
    (Node.ofBytes? bytes).bind ErrorBody.ofNode? = some ⟨message⟩

theorem Reports.message_unique {response : Response ε} {status other : Nat}
    {message another : String} (one : Reports response status message)
    (two : Reports response other another) : message = another := by
  obtain ⟨bytes, held, first⟩ := one.body
  obtain ⟨again, same, second⟩ := two.body
  obtain rfl := Except.ok.inj (held.symm.trans same)
  exact congrArg ErrorBody.error (Option.some.inj (first.symm.trans second))

/-- Failures in the words of whoever reported them, and how they read. -/
inductive Reported (text : String) : Session.Error → String → Prop
  | request : Reported text (.vault (.invalidRequest (.reported text))) text
  | data : Reported text (.vault (.corrupted (.reported text))) ("Invalid data: " ++ text)
  | origin : Reported text (.vault (.origin (.reported text))) ("Upstream request failed: " ++ text)
  | key : Reported text (.invalidKey (.reported text)) text
  | settings : Reported text (.settings (.task text)) ("Settings task failed: " ++ text)

/-! ### Errors -/

theorem reports_toResponse (error : Error) :
    Reports (error.toResponse : Response ε) error.code error.message := by
  refine ⟨rfl, rfl, (ErrorBody.mk error.message).toNode.toBytes, rfl, ?_⟩
  rw [Node.ofBytes?_toBytes (ErrorBody.isProper_toNode _), Option.bind_some,
    ErrorBody.ofNode?_toNode]

theorem message_ofVault (error : Vault.Error) : (Error.ofVault error).message = error.message := by
  cases error <;> rfl

theorem message_ofSession {error : Session.Error} (other : error ≠ .notEnabled) :
    (Error.ofSession error).message = error.message := by
  cases error with
  | notEnabled => exact absurd rfl other
  | vault cause => exact message_ofVault cause
  | settings cause => rfl
  | invalidKey cause => rfl
  | stopped => rfl

theorem reports_ofVault (error : Vault.Error) :
    Reports ((Error.ofVault error).toResponse : Response ε) 400 error.message := by
  have told := reports_toResponse (ε := ε) (.ofVault error)
  rwa [code_ofVault, message_ofVault] at told

theorem reports_ofSession {error : Session.Error} (other : error ≠ .notEnabled) :
    Reports ((Error.ofSession error).toResponse : Response ε) 400 error.message := by
  have told := reports_toResponse (ε := ε) (.ofSession error)
  rwa [code_ofSession, message_ofSession other] at told

theorem reports_reported {text message : String} {error : Session.Error}
    (reported : Reported text error message) :
    Reports ((Error.ofSession error).toResponse : Response ε) 400 message := by
  cases reported <;> exact reports_ofSession (by simp)

/-! ### Requests -/

section

variable {g after : Gateway} {request : Request} {error : Error}

/-- The error of a handler has no other status. -/
theorem serve_of_failed {route : Route}
    (routed : route? g.snapshot.isEnabled request.path = some route)
    (failed : (g.handle route request).1 = .error error) :
    Reports (g.serve request).1 400 error.message := by
  have answers := answers_handle g route request
  rw [failed] at answers
  rw [serve_of_route routed, failed, ← answers.code]
  exact reports_toResponse error

/-- The error of a request that is passed through is a bad gateway. -/
theorem serve_of_unrelayed (unrouted : route? g.snapshot.isEnabled request.path = none)
    (failed : g.relay request = (.error error, after)) :
    Reports (g.serve request).1 502 error.message := by
  have served : (g.serve request).1 = (Error.status 502 error.message).toResponse := by
    simp only [serve, dispatch, unrouted, failed, badGateway]
  rw [served]
  exact reports_toResponse _

end

/-! ### Timeouts -/

section

variable {g : Gateway} {request : Request} {link : Link} {awaited : Awaited}

/-- The status of a failure: that of a bad gateway if the request is passed through. -/
def failureStatus (g : Gateway) (request : Request) : Nat :=
  if route? g.snapshot.isEnabled request.path = none then 502 else 400

theorem serve_of_late (awaits : g.Awaits request link awaited) (late : awaited.IsLate link) :
    Reports (g.serve request).1 (g.failureStatus request) (lateError awaited).message := by
  rcases routed : route? g.snapshot.isEnabled request.path with _ | route
  · rw [failureStatus, if_pos routed]
    cases awaits with
    | relayed relays => exact serve_of_unrelayed routed (relay_of_late late)
    | description found => rw [routed] at found; cases found
    | count found => rw [routed] at found; cases found
    | repository found => rw [routed] at found; cases found
    | index found => rw [routed] at found; cases found
    | facts found => rw [routed] at found; cases found
    | start found => rw [routed] at found; cases found
    | content found => rw [routed] at found; cases found
  · rw [failureStatus, if_neg (by simp [routed])]
    exact serve_of_failed routed (handle_of_late awaits late routed)

/-- What a client is told when the origin keeps its request waiting. Every request to the origin is
for something that is awaited; what of it comes too late reads as a timeout, if and only if it is
not the body of the origin's description of itself. -/
structure TellsTimeouts (g : Gateway) (request : Request) : Prop where
  asks : g.engine.link.Asks (g.serve request).2.engine.link (g.IsAwaited request)
  late : ∀ link awaited, g.Awaits request link awaited → awaited.IsLate link →
    (Reports (g.serve request).1 (g.failureStatus request) "request timed out" ↔
      ∀ asked, awaited ≠ .body asked)
  stalled : ∀ link asked, g.Awaits request link (.body asked) →
    (Awaited.body asked).IsLate link →
    Reports (g.serve request).1 400 "Upstream request failed: error decoding response body"

theorem tellsTimeouts (g : Gateway) (request : Request) : g.TellsTimeouts request where
  asks := serve_awaited g request
  late link awaited awaits late := by
    have told := serve_of_late awaits late
    cases awaited with
    | answer asked => exact iff_of_true told (by simp)
    | object name range => exact iff_of_true told (by simp)
    | body asked =>
      have different : "Upstream request failed: " ++ stalledText ≠ "request timed out" := by decide
      exact iff_of_false (fun again => different (told.message_unique again))
        fun other => other asked rfl
  stalled link asked awaits late := by
    cases awaits with
    | description routed method =>
      have told := serve_of_late (.description routed method) late
      rwa [failureStatus, if_neg (by simp [routed])] at told

end

/-- No failure loses its message. An error of the reader, and one of the lifecycle with whatever it
wraps, is told as a JSON record with status 400 that reads back as the error's own message, with the
words of whoever reported it as they are; only a lifecycle that is not enabled reads as a locked
repository does. An error with a status keeps it. So the client of a request is told the error of
its handler, or why the request could not be passed through. A timeout reads as one in every layer,
from the link up, unless it is that of the body of the origin's description of itself. -/
theorem failures_keep_their_message (g : Gateway) (request : Request) :
    (∀ error, Reports (respond (.error (.ofVault error))) 400 error.message) ∧
    (∀ error, error ≠ .notEnabled →
      Reports (respond (.error (.ofSession error))) 400 error.message) ∧
    (∀ text error message, Reported text error message →
      Reports (respond (.error (.ofSession error))) 400 message) ∧
    (Reports (respond (.error (.ofSession .notEnabled))) 400 "Repository is not unlocked" ∧
      (Reads g request → g.snapshot.unlocked? = none →
        (g.serve request).1 = respond (.error (.ofSession .notEnabled)))) ∧
    (∀ code message, Reports (respond (.error (.status code message))) code message) ∧
    (∀ route error after, route? g.snapshot.isEnabled request.path = some route →
      g.handle route request = (.error error, after) →
      Reports (g.serve request).1 400 error.message) ∧
    (∀ error after, route? g.snapshot.isEnabled request.path = none →
      g.relay request = (.error error, after) →
      Reports (g.serve request).1 502 error.message) ∧
    (∀ error ∈ [Error.timeout, .ofVault .timeout, .ofSession (.vault .timeout)],
      Reports (respond (.error error)) 400 "request timed out") ∧
    (∀ link : Link, link.TellsTimeouts) ∧ TellsTimeouts g request := by
  refine ⟨reports_ofVault, fun error => reports_ofSession,
    fun text error message => reports_reported,
    ⟨reports_toResponse _, fun reads locked => ?_⟩,
    fun code message => reports_toResponse _,
    fun route error after routed failed => serve_of_failed routed (congrArg Prod.fst failed),
    fun error after => serve_of_unrelayed, ?_, Link.tellsTimeouts, tellsTimeouts g request⟩
  · rw [serve_of_locked reads locked]
    rfl
  · intro error mem
    have timeout : error = .timeout := by
      simpa [Error.ofVault, Error.ofSession] using mem
    subst timeout
    exact reports_toResponse _

/-- A gateway that is enabled and locked, before an origin that always answers the same. -/
def answeredSample (answer : Answer) : Gateway :=
  { Lifecycle.initial (Reader.ofLink (.always answer)) (fun _ => none) (.ofFile .missing) with
    snapshot := ⟨2, .enabled 0 none⟩ }

/-- A settings task fails with a quote and a new line in its words. Then there is a request with a
wrong method, one for a listing, and one for a page of an origin that never answers. -/
theorem failures_keep_their_message_of_silentSample :
    let error : Session.Error := .settings (.task "\"panic\"\nat line 1")
    let g := answeredSample .silent
    let wrong : Request := ⟨"POST", .here ⟨"/api/info", none⟩, [], []⟩
    let listing : Request := ⟨"GET", .here ⟨"/api/tree", none⟩, [], []⟩
    let page : Request := ⟨"GET", .here ⟨"/page", none⟩, [], []⟩
    Reports (respond (.error (.ofSession error))) 400
        "Settings task failed: \"panic\"\nat line 1" ∧
      Reports (g.serve wrong).1 400 "Invalid request method" ∧
      Reads g listing ∧ (g.serve listing).1 = respond (.error (.ofSession .notEnabled)) ∧
      Awaits g page g.engine.link (.answer (Link.relayed page)) ∧
      g.engine.link.IsLate (Link.relayed page) ∧
      Reports (g.serve page).1 502 "request timed out" := by
  intro error g wrong listing page
  obtain ⟨-, own, -, -, -, handled, -⟩ := failures_keep_their_message g wrong
  obtain ⟨-, -, -, ⟨-, locked⟩, -⟩ := failures_keep_their_message g listing
  obtain ⟨-, -, -, -, -, -, -, -, -, told⟩ := failures_keep_their_message g page
  have read : error.message = "Settings task failed: \"panic\"\nat line 1" := by decide
  have reads : Reads g listing := ⟨rfl, .tree, by decide, by decide⟩
  have unrouted : route? g.snapshot.isEnabled page.path = none := by decide
  have awaits : Awaits g page g.engine.link (.answer (Link.relayed page)) :=
    .relayed (.passed unrouted)
  have located : (locate "http://[::1]" (Link.relayed page)).toOption.map Net.Url.user =
      some none := by decide +kernel
  have unheard : g.engine.link.IsLate (Link.relayed page) :=
    .silent (Link.reply_always located .silent [])
  have late := (told.late _ _ awaits unheard).2 (by simp)
  rw [failureStatus, if_pos unrouted] at late
  have refused := handled .info _ _ (by decide) rfl
  exact ⟨read ▸ own error (by simp [error]), refused, reads, locked reads rfl, awaits, unheard,
    late⟩

/-- The origin begins its description of itself and does not end it in time. The client is told
that the body could not be decoded, not that there was a timeout. -/
theorem stalled_description_is_no_timeout :
    let answer : Answer := .response ⟨200, [], .streamed [.ok (Bytes.ofText "\x7b"),
      .error .timedOut]⟩
    let g := answeredSample answer
    let info : Request := ⟨"GET", .here ⟨"/api/info", none⟩, [], []⟩
    Awaits g info g.engine.link (.body (Link.relayed info)) ∧
      (Awaited.body (Link.relayed info)).IsLate g.engine.link ∧
      Reports (g.serve info).1 400 "Upstream request failed: error decoding response body" ∧
      ∀ status, ¬ Reports (g.serve info).1 status "request timed out" := by
  intro answer g info
  have awaits : Awaits g info g.engine.link (.body (Link.relayed info)) :=
    .description (by decide) rfl
  have located : (locate "http://[::1]" (Link.relayed info)).toOption.map Net.Url.user =
      some none := by decide +kernel
  have late : (Awaited.body (Link.relayed info)).IsLate g.engine.link :=
    ⟨_, Link.reply_always located answer [], rfl⟩
  have told := (tellsTimeouts g info).stalled _ _ awaits late
  exact ⟨awaits, late, told, fun status timeout =>
    absurd (told.message_unique timeout) (by decide)⟩

end SealGate.Gateway
