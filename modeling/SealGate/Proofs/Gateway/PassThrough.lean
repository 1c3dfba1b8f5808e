import Mathlib.Data.Bool.AllAny
import SealGate.Proofs.Gateway.Routes
import SealGate.Proofs.Gateway.Unlocking
import SealGate.Proofs.Net.Url
import SealGate.Proofs.Origin.Exchange

/-! What passes through. While decryption is off, every request goes on to the origin and the answer
comes back as it was given, both without the headers of a single connection. A request to unlock
differs from the others only in that the consumers are told if the origin agrees, and in the status
of the error if it cannot be asked. A request goes on by way of a URL, though: it arrives with the
place that the URL says, which is the one that was asked for if and only if this is plain, and with
headers of its own for what the request leaves open. -/

namespace SealGate

open Http Origin Session

namespace Http.Headers

/-- A name keeps its values in their order, or loses them all. -/
theorem values_without (headers : Headers) (names : List String) (name : String) :
    (headers.without names).values name = if name ∈ names then [] else headers.values name := by
  unfold values without
  rw [List.filter_filter]
  split
  · rename_i dropped
    rw [List.map_eq_nil_iff, List.filter_eq_nil_iff]
    intro header _ both
    simp only [Bool.and_eq_true, decide_eq_true_eq] at both
    exact both.2 (both.1 ▸ dropped)
  · rename_i kept
    congr 1
    refine List.filter_congr fun header _ => ?_
    by_cases same : header.1 = name
    · simp [same, kept]
    · simp [same]

/-- A name keeps its values, or has those of the defaults if it has none. -/
theorem values_orDefault (headers others : Headers) (name : String) :
    (headers.orDefault others).values name =
      if headers.values name = [] then others.values name else headers.values name := by
  have named : headers.values name = [] ↔ name ∉ headers.map Prod.fst := by
    rw [values, List.map_eq_nil_iff, List.filter_eq_nil_iff, List.mem_map]
    constructor
    · rintro none ⟨header, mem, same⟩
      exact none header mem (by simpa using same)
    · intro none header mem same
      exact none ⟨header, mem, by simpa using same⟩
  have both : (headers.orDefault others).values name = headers.values name ++
      Headers.values (others.filter fun other => other.1 ∉ headers.map Prod.fst) name := by
    rw [orDefault, values, List.filter_append, List.map_append]
    rfl
  rw [both]
  split
  · rename_i none
    rw [none, List.nil_append, values, values, List.filter_filter]
    congr 1
    refine List.filter_congr fun other _ => ?_
    by_cases same : other.1 = name
    · simp only [same, decide_true, Bool.true_and, decide_eq_true_eq]
      exact named.1 none
    · simp [same]
  · rename_i some
    refine List.append_right_eq_self.2 ?_
    rw [values, List.map_eq_nil_iff, List.filter_eq_nil_iff]
    intro other mem same
    have left := (List.mem_filter.1 mem).2
    rw [decide_eq_true_eq] at left same
    exact some (named.2 (same ▸ left))

end Http.Headers

namespace Gateway

/-- A request arrives by way of a URL, without the headers of a connection and the length, and with
what the URL says of the host and of a user. -/
structure IsForwarded (url : Net.Url) (request arrived : Request) : Prop where
  method : arrived.method = request.method
  target : arrived.target =
    if request.method = "CONNECT" then .server url.authority else .here ⟨url.path, url.query⟩
  body : arrived.body = request.body
  host : arrived.headers.values "host" = [Bytes.ofText url.authority]
  accept : arrived.headers.values "accept" =
    if request.headers.values "accept" = [] then [Bytes.ofText "*/*"]
    else request.headers.values "accept"
  user : arrived.headers.values "authorization" =
    if request.headers.values "authorization" = [] then (url.user.map credentials).toList
    else request.headers.values "authorization"
  headers : ∀ name ∉ ["host", "accept", "authorization"], arrived.headers.values name =
    if name ∈ Headers.connectionNames ++ ["content-length"] then []
    else request.headers.values name

/-- A request arrives as it came, with a text in front of its place, but for the headers of a
connection, the host and the length. -/
structure IsVerbatim (front : List Char) (request arrived : Request) : Prop where
  method : arrived.method = request.method
  target : ∃ place, arrived.target = .here place ∧
    (Place.withQuery place.path place.query).toList = front ++ request.target.place.render.toList
  body : arrived.body = request.body
  headers : ∀ name ≠ "host", arrived.headers.values name =
    if name ∈ Headers.connectionNames ++ ["content-length"] then []
    else request.headers.values name

/-- An answer is shown as it was given, but for the headers of a connection. -/
structure IsRelayed (answer : Response ReadFault) (shown : Response BodyFault) : Prop where
  status : shown.status = answer.status
  headers : ∀ name, shown.headers.values name =
    if name ∈ Headers.connectionNames then [] else answer.headers.values name
  body : shown.body.items = answer.body.items.map (·.mapError .origin)

/-- The client's view of an answer. -/
def shown (answer : Response ReadFault) : Response BodyFault :=
  ⟨answer.status, answer.headers.endToEnd,
    .streamed (answer.body.items.map (·.mapError .origin))⟩

/-- The state with another state of the link. -/
def withLink (g : Gateway) (link : Link) : Gateway :=
  { g with engine := { g.engine with link := link } }

theorem values_relayed (request : Request) (name : String) :
    (Link.relayed request).headers.values name =
      if name ∈ Headers.connectionNames ++ ["host", "content-length"] then []
      else request.headers.values name := by
  rw [Link.relayed, Headers.endToEnd, Headers.values_without, Headers.values_without]
  by_cases last : name ∈ ["host", "content-length"] <;> simp [last]

theorem values_defaultHeaders (url : Net.Url) (name : String) :
    (defaultHeaders url).values name =
      if name = "accept" then [Bytes.ofText "*/*"]
      else if name = "host" then [Bytes.ofText url.authority]
      else if name = "authorization" then (url.user.map credentials).toList else [] := by
  simp only [defaultHeaders, Headers.values, List.filter_append, List.map_append]
  by_cases accept : name = "accept"
  · subst accept
    cases url.user <;> simp
  by_cases host : name = "host"
  · subst host
    cases url.user <;> simp
  by_cases user : name = "authorization"
  · subst user
    cases url.user <;> simp
  · cases url.user <;> simp [accept, host, user, Ne.symm]

theorem values_arriving (url : Net.Url) (request : Request) (name : String) :
    (arriving url (Link.relayed request)).headers.values name =
      if (Link.relayed request).headers.values name = [] then (defaultHeaders url).values name
      else (Link.relayed request).headers.values name := Headers.values_orDefault _ _ _

theorem isForwarded_arriving (url : Net.Url) (request : Request) :
    IsForwarded url request (arriving url (Link.relayed request)) where
  method := rfl
  target := rfl
  body := rfl
  host := by
    have dropped : "host" ∈ Headers.connectionNames ++ ["host", "content-length"] := by decide
    rw [values_arriving, values_relayed, if_pos dropped, values_defaultHeaders]
    rfl
  accept := by
    have kept : "accept" ∉ Headers.connectionNames ++ ["host", "content-length"] := by decide
    rw [values_arriving, values_relayed, if_neg kept, values_defaultHeaders]
    rfl
  user := by
    have kept : "authorization" ∉ Headers.connectionNames ++ ["host", "content-length"] := by decide
    rw [values_arriving, values_relayed, if_neg kept, values_defaultHeaders]
    rfl
  headers := by
    intro name other
    simp only [List.mem_cons, List.not_mem_nil, or_false, not_or] at other
    have same : name ∈ Headers.connectionNames ++ ["host", "content-length"] ↔
        name ∈ Headers.connectionNames ++ ["content-length"] := by simp [other.1]
    rw [values_arriving, values_defaultHeaders, if_neg other.2.1, if_neg other.1, if_neg other.2.2,
      values_relayed]
    simp only [same]
    by_cases dropped : name ∈ Headers.connectionNames ++ ["content-length"]
    · simp only [dropped, if_true]
    · simp only [dropped, if_false, ite_eq_right_iff]
      exact Eq.symm

theorem toList_withQuery (url : Net.Url) :
    (Place.withQuery url.path url.query).toList = url.placeChars := by
  cases asked : url.query <;>
    simp [Place.withQuery, Net.Url.path, Net.Url.placeChars, asked]

theorem parse?_of_locate {base : String} {request : Request} {url : Net.Url}
    (located : locate base request = .ok url) :
    Net.Url.parse? (base ++ request.target.place.render) = some url := by
  rw [locate] at located
  split at located
  · split at located
    · cases located
    · rename_i given read
      split at located
      · rw [read, Except.ok.inj located]
      · cases located
  · cases located

/-- The place of a request stands in its URL as it is if and only if it is plain. -/
theorem placeChars_of_locate_iff {base : String} {front : List Char} {request : Request}
    {url : Net.Url} (located : locate base request = .ok url)
    (address : Net.Url.IsAddress base.toList front) :
    url.placeChars = front ++ request.target.place.render.toList ↔
      Net.Url.IsPlain (front ++ request.target.place.render.toList) := by
  have read : Net.Url.parse?
      (String.ofList (base.toList ++ request.target.place.render.toList)) = some url := by
    rw [← String.toList_append, String.ofList_toList]
    exact parse?_of_locate located
  exact Net.Url.placeChars_of_parse?_iff (address.append _) read

/-- A request arrives as it came if and only if its URL and what it is given leave nothing else. -/
theorem IsForwarded.isVerbatim_iff {base : String} {front : List Char} {url : Net.Url}
    {request arrived : Request} (forwarded : IsForwarded url request arrived)
    (located : locate base (Link.relayed request) = .ok url)
    (address : Net.Url.IsAddress base.toList front) :
    IsVerbatim front request arrived ↔ request.method ≠ "CONNECT" ∧
      Net.Url.IsPlain (front ++ request.target.place.render.toList) ∧
      request.headers.values "accept" ≠ [] ∧
      (url.user = none ∨ request.headers.values "authorization" ≠ []) := by
  have plain := placeChars_of_locate_iff located address
  rw [show (Link.relayed request).target = request.target from rfl] at plain
  constructor
  · intro verbatim
    obtain ⟨place, here, same⟩ := verbatim.target
    have through : request.method ≠ "CONNECT" := by
      intro tunnel
      rw [forwarded.target, if_pos tunnel] at here
      cases here
    rw [forwarded.target, if_neg through] at here
    cases here
    refine ⟨through, plain.1 (by rw [← toList_withQuery, same]), fun none => ?_, ?_⟩
    · have given := verbatim.headers "accept" (by decide)
      rw [forwarded.accept, if_pos none, if_neg (by decide), none] at given
      cases given
    · by_cases signs : request.headers.values "authorization" = []
      · have given := verbatim.headers "authorization" (by decide)
        rw [forwarded.user, if_pos signs, if_neg (by decide), signs] at given
        exact .inl (by simpa using given)
      · exact .inr signs
  · rintro ⟨through, straight, accepts, signs⟩
    refine ⟨forwarded.method, ⟨⟨url.path, url.query⟩, ?_, ?_⟩, forwarded.body, fun name other => ?_⟩
    · rw [forwarded.target, if_neg through]
    · rw [toList_withQuery]
      exact plain.2 straight
    by_cases accept : name = "accept"
    · rw [accept, forwarded.accept, if_neg accepts, if_neg (by decide)]
    by_cases user : name = "authorization"
    · have kept : "authorization" ∉ Headers.connectionNames ++ ["content-length"] := by decide
      rw [user, forwarded.user, if_neg kept]
      split
      · rename_i none
        rw [signs.resolve_right fun some => some none, none]
        rfl
      · rfl
    · exact forwarded.headers name (by simp [other, accept, user])

theorem isRelayed_shown (answer : Response ReadFault) : IsRelayed answer (shown answer) where
  status := rfl
  headers := answer.headers.values_without Headers.connectionNames
  body := rfl

theorem relay_eq (g : Gateway) (request : Request) :
    g.relay request =
      (((g.engine.link.send (Link.relayed request)).1.map shown).mapError .ofVault,
        g.withLink (g.engine.link.asked (Link.relayed request))) := by
  have after := Link.send_snd (Link.relayed request) g.engine.link
  unfold relay Link.relay
  rcases given : g.engine.link.send (Link.relayed request) with ⟨error | answer, link⟩ <;>
    rw [given] at after <;> subst after <;> rfl

/-! ### While decryption is off -/

variable {g : Gateway} {request : Request}

theorem isSuccess_iff (status : Nat) : isSuccess status = true ↔ 200 ≤ status ∧ status < 300 := by
  simp [isSuccess]

theorem serve_off_unlock (off : g.snapshot.isEnabled = false)
    (unlocks : IsUnlockPath request.path) : g.serve request =
      (respond (g.handleOriginUnlock request).1, (g.handleOriginUnlock request).2) :=
  serve_of_route (route?_originUnlock off unlocks)

theorem serve_off_other (off : g.snapshot.isEnabled = false) (other : ¬ IsUnlockPath request.path) :
    g.serve request =
      match g.relay request with
      | (.ok response, after) => (response, after)
      | (.error error, after) => ((Error.status badGateway error.message).toResponse, after) := by
  have unrouted := route?_of_other off other
  rcases given : g.relay request with ⟨error | response, after⟩ <;>
    simp only [serve, dispatch, unrouted, given]

theorem serve_of_sent (off : g.snapshot.isEnabled = false) {answer : Response ReadFault}
    (given : (g.engine.link.send (Link.relayed request)).1 = .ok answer) :
    g.serve request = (shown answer,
      { g.withLink (g.engine.link.asked (Link.relayed request)) with
        bus := if IsUnlockPath request.path ∧ 200 ≤ answer.status ∧ answer.status < 300
          then g.bus.broadcast .unlocked else g.bus }) := by
  have relayed : g.relay request =
      (.ok (shown answer), g.withLink (g.engine.link.asked (Link.relayed request))) := by
    rw [relay_eq, given]
    rfl
  by_cases unlocks : IsUnlockPath request.path
  · rw [serve_off_unlock off unlocks, handleOriginUnlock, relayed]
    have status : (shown answer).status = answer.status := rfl
    simp only [status, unlocks, true_and, ← isSuccess_iff]
    cases isSuccess answer.status <;> rfl
  · rw [serve_off_other off unlocks, relayed]
    simp only [unlocks, false_and, if_false]
    rfl

theorem serve_of_unsent (off : g.snapshot.isEnabled = false) {error : Vault.Error}
    (given : (g.engine.link.send (Link.relayed request)).1 = .error error) :
    g.serve request =
      ((Error.status (if IsUnlockPath request.path then 400 else badGateway)
          (Error.ofVault error).message).toResponse,
        g.withLink (g.engine.link.asked (Link.relayed request))) := by
  have relayed := relay_eq g request
  rw [given] at relayed
  by_cases unlocks : IsUnlockPath request.path
  · rw [serve_off_unlock off unlocks, handleOriginUnlock, relayed, if_pos unlocks,
      ← code_ofVault error]
    rfl
  · rw [serve_off_other off unlocks, relayed, if_neg unlocks]
    rfl

/-- While decryption is off the gateway is transparent up to the URL by way of which a request goes
on. One request goes out for one that comes, if it has a URL, and what the origin answers to what
arrives is the answer. Nothing changes, except that all consumers are told of an unlock that the
origin has accepted. The request arrives as it came if and only if its place is plain, it says what
it accepts, and the base names no user or the request signs in itself. -/
theorem transparent_up_to_url (g : Gateway) (request : Request)
    (off : g.snapshot.isEnabled = false) :
    let link := g.engine.link
    let sent := Link.relayed request
    let status := if IsUnlockPath request.path then 400 else 502
    (∀ cause, locate link.base sent = .error cause → g.serve request =
      ((Error.status status (Error.ofVault (.origin (.building cause))).message).toResponse, g)) ∧
    ∀ url, locate link.base sent = .ok url → ∃ arrived response after,
      IsForwarded url request arrived ∧
      (∀ front, Net.Url.IsAddress link.base.toList front → (IsVerbatim front request arrived ↔
        request.method ≠ "CONNECT" ∧
        Net.Url.IsPlain (front ++ request.target.place.render.toList) ∧
        request.headers.values "accept" ≠ [] ∧
        (url.user = none ∨ request.headers.values "authorization" ≠ []))) ∧
      g.serve request = (response, after) ∧ g.Kept after ∧
      after.engine.link = link.asked sent ∧
      after.engine.link.received =
        link.received ++ (if link.reaches sent then [arrived] else []) ∧
      (∀ answer, link.answer link.received arrived = .response answer → IsRelayed answer response ∧
        after.bus = if IsUnlockPath request.path ∧ 200 ≤ answer.status ∧ answer.status < 300
          then g.bus.broadcast .unlocked else g.bus) ∧
      ((∀ answer, link.answer link.received arrived ≠ .response answer) → after.bus = g.bus ∧
        ∃ error, Link.Fails link sent error ∧
          response = (Error.status status (Error.ofVault error).message).toResponse) := by
  intro link sent status
  refine ⟨fun cause missing => ?_, fun url located => ?_⟩
  · have reply : link.reply link.sent sent = .error cause := by rw [Link.reply, missing]; rfl
    have asked : link.asked sent = link := by simp only [Link.asked, Link.reaches, reply]; rfl
    have given : link.send sent = (.error (.origin (.building cause)), link) := by
      simp only [Link.send, missing]
    rw [serve_of_unsent off (congrArg Prod.fst given)]
    exact congrArg (Prod.mk _ ∘ g.withLink) asked
  · have reply : link.reply link.sent sent =
        .ok (link.answer link.received (arriving url sent)) := by rw [Link.reply, located]; rfl
    have forwarded := isForwarded_arriving url request
    have arrives : link.arrival sent = arriving url sent := by rw [Link.arrival, located]
    have log := arrives ▸ Link.received_asked link sent
    refine ⟨arriving url sent, ?_⟩
    rcases Link.send_cases sent link with ⟨answer, answered, given⟩ | ⟨error, fails, given⟩
    · rw [reply] at answered
      refine ⟨_, _, forwarded, fun front => forwarded.isVerbatim_iff located,
        serve_of_sent off (congrArg Prod.fst given), rfl, rfl, log, fun other same => ?_,
        fun none => absurd (Except.ok.inj answered) (none answer)⟩
      obtain rfl := Answer.response.inj ((Except.ok.inj answered).symm.trans same)
      exact ⟨isRelayed_shown answer, rfl⟩
    · refine ⟨_, _, forwarded, fun front => forwarded.isVerbatim_iff located,
        serve_of_unsent off (congrArg Prod.fst given), rfl, rfl, log, fun other same => ?_,
        fun _ => ⟨rfl, error, fails, rfl⟩⟩
      rw [same] at reply
      exact absurd reply (fails.unanswered other)

/-- A gateway with one consumer that is about to be enabled, before an origin that agrees to
everything. -/
def enablingSample : Gateway :=
  let answer : Response ReadFault := ⟨204, [("connection", [49]), ("x-tag", [50])], .empty⟩
  { Lifecycle.initial (Reader.ofLink (.always (.response answer))) (fun _ => none)
      (.ofFile .missing) with
    bus := Bus.empty.attach.2
    snapshot := ⟨1, .enabling⟩ }

theorem isAddress_enablingSample :
    Net.Url.IsAddress enablingSample.engine.link.base.toList [] :=
  ⟨"http".toList, "[::1]".toList, by decide, by decide, List.all_iff_forall_prop.1 (by decide),
    by decide, List.all_iff_forall_prop.1 (by decide)⟩

def unlockSample : Request :=
  ⟨"PUT", .here ⟨"/api/repo/unlock/now", some "x=1"⟩,
    [("host", [51]), ("x-tag", [52]), ("te", [53]), ("accept", [54]), ("x-tag", [55])], [7]⟩

theorem isPlain_unlockSample :
    Net.Url.IsPlain ([] ++ unlockSample.target.place.render.toList) where
  slash := by decide
  path := List.all_iff_forall_prop.1 (by decide)
  segments := by decide +kernel
  query := .inr ⟨"x=1".toList, by decide, List.all_iff_forall_prop.1 (by decide)⟩

/-- An unlock goes through as it is, and a request that has no URL goes nowhere. -/
theorem transparent_while_enabling :
    let nowhere : Request := ⟨"OPTIONS", .here ⟨"*", none⟩, [], []⟩
    enablingSample.snapshot.isEnabled = false ∧
      (∃ arrived response after, IsVerbatim [] unlockSample arrived ∧
        enablingSample.serve unlockSample = (response, after) ∧
        after.engine.link.received = [arrived] ∧ response.status = 204 ∧
        after.bus = enablingSample.bus.broadcast .unlocked) ∧
      enablingSample.serve nowhere = ((Error.status 502
        "Upstream request failed: builder error").toResponse, enablingSample) := by
  intro nowhere
  obtain ⟨-, located⟩ := transparent_up_to_url enablingSample unlockSample rfl
  obtain ⟨missing, -⟩ := transparent_up_to_url enablingSample nowhere rfl
  obtain ⟨url, found, user⟩ : ∃ url,
      locate "http://[::1]" (Link.relayed unlockSample) = .ok url ∧ url.user = none :=
    Link.exists_url (by decide +kernel)
  obtain ⟨arrived, response, after, -, verbatim, served, -, -, received, answered, -⟩ :=
    located url found
  have relayed := answered _ rfl
  have reached : enablingSample.engine.link.reaches (Link.relayed unlockSample) = true := by
    decide +kernel
  have unread : Net.Url.parse? ("http://[::1]" ++ nowhere.target.place.render) = none := by
    decide +kernel
  have lost : locate "http://[::1]" (Link.relayed nowhere) = .error none := by
    rw [locate, if_pos (by decide), show (Link.relayed nowhere).target = nowhere.target from rfl,
      unread]
  refine ⟨rfl, ⟨arrived, response, after, ?_, served, ?_, relayed.1.status, ?_⟩, ?_⟩
  · exact (verbatim [] isAddress_enablingSample).2
      ⟨by decide, isPlain_unlockSample, by decide, .inl user⟩
  · rw [received, reached]
    rfl
  · rw [relayed.2]
    exact if_pos ⟨by decide, by decide, by decide⟩
  · have other : ¬ IsUnlockPath nowhere.path := by decide
    rw [missing none lost, if_neg other]
    rfl

/-- A path that leaves a folder again arrives as the one that it leads to, and a request that says
nothing of what it accepts arrives with a header that it did not have. -/
theorem dots_are_resolved :
    let request : Request := ⟨"GET", .here ⟨"/a/../b", none⟩, [], []⟩
    enablingSample.snapshot.isEnabled = false ∧
      ∃ arrived, (enablingSample.serve request).2.engine.link.received = [arrived] ∧
        arrived.target = .here ⟨"/b", none⟩ ∧
        arrived.headers.values "accept" = [Bytes.ofText "*/*"] ∧
        ¬ IsVerbatim [] request arrived := by
  intro request
  have received : (enablingSample.serve request).2.engine.link.received =
      [⟨"GET", .here ⟨"/b", none⟩,
        [("accept", Bytes.ofText "*/*"), ("host", Bytes.ofText "[::1]")], []⟩] := by
    decide +kernel
  refine ⟨rfl, _, received, rfl, rfl, fun verbatim => ?_⟩
  obtain ⟨place, here, same⟩ := verbatim.target
  cases here
  exact absurd same (by decide)

end Gateway

end SealGate
