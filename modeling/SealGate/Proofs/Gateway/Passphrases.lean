import SealGate.Proofs.Gateway.Failures

/-! Passphrases stay here. While decryption is on, a request to unlock makes the gateway ask for the
description of the repository or for nothing, and what it asks is the same for every client and
every passphrase. So the origin cannot tell two runs apart in which clients send other passphrases
and other headers with their requests to unlock, if these succeed with the same keys and fail alike.
-/

namespace SealGate.Gateway

open Http Origin Session

/-- The request for the description of the repository. -/
def repositoryRequest : Request := ⟨"GET", .here ⟨"/rawfile/_info.json", none⟩, [], []⟩

/-- What the body of a request to unlock says. -/
def unlockBody? (request : Request) : Option UnlockRequest :=
  (Json.Node.ofBytes? request.body).bind UnlockRequest.ofNode?

/-- The request brings a passphrase that can be tried here. -/
def HasPassphrase (request : Request) : Prop :=
  request.method = "POST" ∧
    ∃ passphrase, passphrase ≠ "" ∧ unlockBody? request = some ⟨"passphrase", some passphrase⟩

/-- The key and the key id that a request to unlock has installed; none if it has failed. -/
def unlockResult (g : Gateway) (request : Request) : Option (Vault.MasterKey × String) :=
  if (g.serve request).1.status = 200 then
    (g.serve request).2.snapshot.unlocked?.map fun unlocked => (unlocked.key, unlocked.keyId)
  else none

/-- Two requests are the same but for their headers, and for their passphrases if both have one that
is not empty. -/
structure Respelled (one other : Request) : Prop where
  method : other.method = one.method
  target : other.target = one.target
  body : other.body = one.body ∨ ∃ kind first second, first ≠ "" ∧ second ≠ "" ∧
    unlockBody? one = some ⟨kind, some first⟩ ∧ unlockBody? other = some ⟨kind, some second⟩

/-- Events in two states are the same, or requests to unlock while decryption is on that differ in
their secrets and come to the same. -/
inductive Twins (g h : Gateway) : Event → Event → Prop
  | same (event : Event) : Twins g h event event
  | unlocks {one other : Request} : g.snapshot.isEnabled = true → h.snapshot.isEnabled = true →
      IsUnlockPath one.path → Respelled one other → g.unlockResult one = h.unlockResult other →
      Twins g h (.request one) (.request other)

/-- Two runs that differ in the secrets of requests to unlock. -/
inductive TwinRuns : Gateway → Gateway → List Event → List Event → Prop
  | nil (g h : Gateway) : TwinRuns g h [] []
  | cons {g h : Gateway} {one other : Event} {ones others : List Event} : Twins g h one other →
      TwinRuns (g.after one) (h.after other) ones others →
      TwinRuns g h (one :: ones) (other :: others)

/-! ### What is asked -/

section Asked

variable {g : Gateway} {request one other : Request}

theorem objectRequest_repository :
    Link.objectRequest Reader.repositoryName none = repositoryRequest := by decide

theorem usable?_eq_some_iff {body : UnlockRequest} {passphrase : String} :
    body.usable? = some passphrase ↔
      passphrase ≠ "" ∧ body = ⟨"passphrase", some passphrase⟩ := by
  obtain ⟨kind, held⟩ := body
  rw [UnlockRequest.usable?, Option.filter_eq_some_iff, decide_eq_true_iff]
  simp only [UnlockRequest.mk.injEq, passphraseKind]
  constructor
  · rintro ⟨known, same, some⟩
    exact ⟨some, same, known⟩
  · rintro ⟨some, same, known⟩
    exact ⟨known, same, some⟩

theorem passphraseOf_eq_ok_iff {passphrase : String} :
    passphraseOf request = .ok passphrase ↔ request.method = "POST" ∧ passphrase ≠ "" ∧
      unlockBody? request = some ⟨"passphrase", some passphrase⟩ := by
  have body : (unlockBody? request).bind UnlockRequest.usable? = some passphrase ↔
      passphrase ≠ "" ∧ unlockBody? request = some ⟨"passphrase", some passphrase⟩ := by
    simp only [Option.bind_eq_some_iff, usable?_eq_some_iff]
    constructor
    · rintro ⟨_, known, some, rfl⟩
      exact ⟨some, known⟩
    · rintro ⟨some, known⟩
      exact ⟨_, known, some, rfl⟩
  rw [← body]
  unfold passphraseOf requireMethod unlockBody?
  by_cases method : request.method = "POST"
  · simp only [method, if_true, true_and, bind, Except.bind]
    cases ((Json.Node.ofBytes? request.body).bind UnlockRequest.ofNode?).bind
      UnlockRequest.usable? with
    | none => simp [throw, throwThe, MonadExceptOf.throw]
    | some given => simp [pure, Except.pure]
  · simp [method, bind, Except.bind]

theorem hasPassphrase_iff :
    HasPassphrase request ↔ ∃ passphrase, passphraseOf request = .ok passphrase := by
  simp only [passphraseOf_eq_ok_iff]
  exact ⟨fun ⟨method, passphrase, given⟩ => ⟨passphrase, method, given⟩,
    fun ⟨passphrase, method, given⟩ => ⟨method, passphrase, given⟩⟩

theorem serve_on_unlock (on : g.snapshot.isEnabled = true) (unlocks : IsUnlockPath request.path) :
    g.serve request = (respond (g.handleUnlock request).1, (g.handleUnlock request).2) :=
  serve_of_route (route?_unlock on unlocks)

theorem link_serve_of_passphrase (on : g.snapshot.isEnabled = true)
    (unlocks : IsUnlockPath request.path) (running : g.stopped = false)
    (brings : HasPassphrase request) :
    (g.serve request).2.engine.link = g.engine.link.asked repositoryRequest := by
  obtain ⟨passphrase, given⟩ := hasPassphrase_iff.1 brings
  have asked := link_requestUnlock on running passphrase
  rw [objectRequest_repository] at asked
  rw [serve_on_unlock on unlocks, handleUnlock, given]
  rcases outcome : g.requestUnlock readerEngine passphrase with ⟨error | keyId, after⟩ <;>
    rw [outcome] at asked
  · simp only [outcome]
    exact asked
  · simp only [outcome]
    exact asked

/-- Without a passphrase nothing happens, nor does anything once the lifecycle has ended. -/
theorem serve_of_refused (on : g.snapshot.isEnabled = true) (unlocks : IsUnlockPath request.path)
    (refused : ¬ (g.stopped = false ∧ HasPassphrase request)) : (g.serve request).2 = g := by
  rw [serve_on_unlock on unlocks, handleUnlock]
  cases given : passphraseOf request with
  | error error => rfl
  | ok passphrase =>
    have stopped : g.stopped = true := by
      rw [← Bool.not_eq_false]
      exact fun running => refused ⟨running, hasPassphrase_iff.2 ⟨passphrase, given⟩⟩
    simp only [Lifecycle.requestUnlock, stopped]
    rfl

end Asked

/-! ### What a request to unlock comes to -/

section Twins

variable {g : Gateway} {request one other : Request}

/-- A request to unlock changes the state by its result and by what is asked for it. -/
theorem serve_of_result (on : g.snapshot.isEnabled = true) (unlocks : IsUnlockPath request.path) :
    (g.unlockResult request = none ∧
        (g.serve request).2 = g.withLink (g.serve request).2.engine.link) ∨
      ∃ load key keyId, g.snapshot.load? = some load ∧
        g.unlockResult request = some (key, keyId) ∧
        (g.serve request).2 = { g with
          engine := ⟨(g.serve request).2.engine.link, g.engine.heads.clear⟩
          bus := g.bus.broadcast .unlocked
          snapshot := ⟨g.snapshot.version + 1, .enabled load (some ⟨key, keyId, ⟨key, none⟩⟩)⟩
          past := g.snapshot :: g.past } := by
  unfold unlockResult
  rcases serve_unlock_cases (route?_unlock on unlocks) with ⟨status, kept, quiet⟩ |
    ⟨status, ⟨passphrase, key, keyId, -, -, load, loaded, -, -, rekeyed⟩, told⟩
  · refine .inl ⟨by simp [status], ?_⟩
    rw [Kept, quiet] at kept
    exact kept
  · rw [told] at rekeyed
    refine .inr ⟨load, key, keyId, loaded, ?_, rekeyed⟩
    rw [if_pos status, rekeyed]
    rfl

theorem Respelled.hasPassphrase_iff (respelled : Respelled one other) :
    HasPassphrase other ↔ HasPassphrase one := by
  obtain ⟨method, -, body⟩ := respelled
  unfold HasPassphrase
  rw [method]
  refine and_congr_right fun _ => ?_
  rcases body with same | ⟨kind, first, second, some, more, said, again⟩
  · rw [unlockBody?, unlockBody?, same]
  · rw [said, again]
    constructor
    · rintro ⟨passphrase, -, ⟨⟩⟩
      exact ⟨first, some, rfl⟩
    · rintro ⟨passphrase, -, ⟨⟩⟩
      exact ⟨second, more, rfl⟩

theorem Respelled.path (respelled : Respelled one other) : other.path = one.path :=
  congrArg Http.Target.path respelled.target

theorem Respelled.link (respelled : Respelled one other) (on : g.snapshot.isEnabled = true)
    (unlocks : IsUnlockPath one.path) :
    (g.serve other).2.engine.link = (g.serve one).2.engine.link := by
  have again : IsUnlockPath other.path := by rwa [respelled.path]
  by_cases tried : g.stopped = false ∧ HasPassphrase one
  · have brings := respelled.hasPassphrase_iff.2 tried.2
    rw [link_serve_of_passphrase on unlocks tried.1 tried.2,
      link_serve_of_passphrase on again tried.1 brings]
  · have refused : ¬ (g.stopped = false ∧ HasPassphrase other) := by
      rwa [respelled.hasPassphrase_iff]
    rw [serve_of_refused on unlocks tried, serve_of_refused on again refused]

/-- In one state, requests that differ in their secrets and come to the same change the same. -/
theorem Respelled.serve (respelled : Respelled one other) (on : g.snapshot.isEnabled = true)
    (unlocks : IsUnlockPath one.path) (same : g.unlockResult one = g.unlockResult other) :
    (g.serve other).2 = (g.serve one).2 := by
  have again : IsUnlockPath other.path := by rwa [respelled.path]
  have link := respelled.link on unlocks
  rcases serve_of_result on unlocks with ⟨failed, kept⟩ | ⟨load, key, keyId, loaded, done, state⟩
  · rcases serve_of_result on again with ⟨-, likewise⟩ | ⟨_, _, _, -, done, -⟩
    · rw [kept, likewise, link]
    · rw [failed, done] at same
      cases same
  · rcases serve_of_result on again with ⟨failed, -⟩ | ⟨_, _, _, known, result, likewise⟩
    · rw [done, failed] at same
      cases same
    · rw [done, result] at same
      rw [loaded] at known
      obtain rfl := Option.some.inj known
      cases same
      rw [state, likewise, link]

/-- Two runs that differ in the secrets of requests to unlock go through the same states. -/
theorem TwinRuns.afterAll_eq {h : Gateway} {ones others : List Event}
    (twins : TwinRuns g h ones others) (same : g = h) : g.afterAll ones = h.afterAll others := by
  induction twins with
  | nil => exact same
  | cons first rest ih =>
    subst same
    refine ih ?_
    cases first with
    | same event => rfl
    | unlocks on _ unlocks respelled result => exact (respelled.serve on unlocks result).symm

end Twins

/-! ### What arrives -/

/-- What the origin receives for the repository: nothing but the URL tells one such request from
another. Behind the place of an address the name of the repository is written as it is. -/
structure AsksForRepository (link : Link) (arrived : Request) : Prop where
  method : arrived.method = "GET"
  body : arrived.body = []
  url : ∃ url, locate link.base repositoryRequest = .ok url ∧
    arrived.target = .here ⟨url.path, url.query⟩ ∧ arrived.headers = defaultHeaders url ∧
    ∀ front, Net.Url.IsAddress link.base.toList front →
      (url.placeChars = front ++ "/rawfile/_info.json".toList ↔
        Net.Url.IsPlain (front ++ "/rawfile/_info.json".toList))

theorem asksForRepository_arrival {link : Link} (reached : link.reaches repositoryRequest = true) :
    AsksForRepository link (link.arrival repositoryRequest) := by
  obtain ⟨url, located⟩ := Link.located_of_reaches reached
  have arrives : link.arrival repositoryRequest = arriving url repositoryRequest := by
    rw [Link.arrival, located]
  have name : repositoryRequest.target.place.render.toList = "/rawfile/_info.json".toList := by
    decide
  refine ⟨by rw [arrives]; rfl, by rw [arrives]; rfl, url, located, by rw [arrives]; rfl, ?_, ?_⟩
  · rw [arrives]
    simp [arriving, repositoryRequest, Headers.orDefault]
  · intro front address
    rw [← name]
    exact placeChars_of_locate_iff located address

theorem received_of_asked {g : Gateway} {request : Request} (on : g.snapshot.isEnabled = true)
    (unlocks : IsUnlockPath request.path)
    (reached : g.engine.link.reaches repositoryRequest = true) (running : g.stopped = false)
    (brings : HasPassphrase request) : (g.serve request).2.engine.link.received =
      g.engine.link.received ++ [g.engine.link.arrival repositoryRequest] := by
  rw [link_serve_of_passphrase on unlocks running brings, Link.received_asked, if_pos reached]

theorem received_of_unasked {g : Gateway} {request : Request} (on : g.snapshot.isEnabled = true)
    (unlocks : IsUnlockPath request.path)
    (unasked : ¬ (g.engine.link.reaches repositoryRequest = true ∧ g.stopped = false ∧
      HasPassphrase request)) :
    (g.serve request).2.engine.link.received = g.engine.link.received := by
  by_cases tried : g.stopped = false ∧ HasPassphrase request
  · rw [link_serve_of_passphrase on unlocks tried.1 tried.2, Link.received_asked,
      if_neg fun reached => unasked ⟨reached, tried⟩, List.append_nil]
  · rw [serve_of_refused on unlocks tried]

/-- A passphrase that is brought once the lifecycle has ended. -/
theorem serve_of_ended {g : Gateway} {request : Request} (on : g.snapshot.isEnabled = true)
    (unlocks : IsUnlockPath request.path) (ended : g.stopped = true)
    (brings : HasPassphrase request) :
    g.serve request = ((Error.ofSession .stopped).toResponse, g) := by
  obtain ⟨passphrase, given⟩ := hasPassphrase_iff.1 brings
  rw [serve_on_unlock on unlocks, handleUnlock, given]
  simp only [Lifecycle.requestUnlock, ended, if_true]
  rfl

/-- While decryption is on, the origin learns nothing of a request to unlock but that there is one:
it receives one request for the repository, which is always the same, if a passphrase is brought
while the lifecycle runs, and else nothing. Once the lifecycle has ended the client is told so, and
nothing changes. So from two runs in which other passphrases and other headers are sent, with the
same results, the origin receives the same. -/
theorem passphrases_stay_local (g : Gateway) :
    (g.snapshot.isEnabled = true → ∀ request, IsUnlockPath request.path →
      let received := (g.serve request).2.engine.link.received
      (received = g.engine.link.received ∨ ∃ arrived, AsksForRepository g.engine.link arrived ∧
        received = g.engine.link.received ++ [arrived]) ∧
      ((∃ arrived, AsksForRepository g.engine.link arrived ∧
          received = g.engine.link.received ++ [arrived]) ↔
        g.engine.link.reaches repositoryRequest = true ∧ g.stopped = false ∧
          HasPassphrase request) ∧
      (g.stopped = true → HasPassphrase request →
        Reports (g.serve request).1 400 "Lifecycle manager has stopped" ∧
          (g.serve request).2 = g)) ∧
    ∀ ones others, TwinRuns g g ones others →
      (g.afterAll ones).engine.link.received = (g.afterAll others).engine.link.received := by
  refine ⟨fun on request unlocks => ?_, fun ones others twins => ?_⟩
  · have told : g.stopped = true → HasPassphrase request →
        Reports (g.serve request).1 400 "Lifecycle manager has stopped" ∧
          (g.serve request).2 = g := by
      intro ended brings
      rw [serve_of_ended on unlocks ended brings]
      exact ⟨reports_ofSession (by simp), rfl⟩
    by_cases asked : g.engine.link.reaches repositoryRequest = true ∧ g.stopped = false ∧
      HasPassphrase request
    · have received := received_of_asked on unlocks asked.1 asked.2.1 asked.2.2
      have asks := asksForRepository_arrival asked.1
      exact ⟨.inr ⟨_, asks, received⟩, iff_of_true ⟨_, asks, received⟩ asked, told⟩
    · have received := received_of_unasked on unlocks asked
      refine ⟨.inl received, iff_of_false ?_ asked, told⟩
      rintro ⟨arrived, -, more⟩
      rw [received] at more
      exact absurd more.symm (by simp)
  · rw [twins.afterAll_eq rfl]

/-- An enabled gateway before an origin that has no repository. -/
def deniedSample : Gateway := answeredSample (.response ⟨404, [], .empty⟩)

def passphraseSample (passphrase : String) (headers : Headers) : Request :=
  ⟨"POST", .here ⟨"/api/repo/unlock", none⟩, headers,
    Bytes.ofText ("\x7b\"type\":\"passphrase\",\"passphrase\":\"" ++ passphrase ++ "\"\x7d")⟩

theorem unlockBody_sample :
    unlockBody? (passphraseSample "one" []) = some ⟨"passphrase", some "one"⟩ := by
  decide +kernel

theorem hasPassphrase_sample : HasPassphrase (passphraseSample "one" []) :=
  ⟨rfl, "one", by decide, unlockBody_sample⟩

/-- A gateway that was enabled and whose lifecycle has ended since. -/
def endedSample : Gateway :=
  (start (.always (.response ⟨404, [], .empty⟩)) (fun _ => none) (.ofFile .missing)).afterAll
    [.session (.enable true), .session .stop]

theorem reaches_repository (answer : Response ReadFault) :
    (Link.always (.response answer)).reaches repositoryRequest = true := by
  have located : (locate "http://[::1]" repositoryRequest).toOption.map Net.Url.user =
      some none := by decide +kernel
  exact Link.reaches_of_response (Link.reply_always located (.response answer) [])

/-- Two clients send one passphrase each; a third one sends his to a lifecycle that has ended. -/
theorem passphrases_stay_local_of_denied :
    let one := passphraseSample "one" []
    let other := passphraseSample "another" [("cookie", [65])]
    deniedSample.snapshot.isEnabled = true ∧ IsUnlockPath one.path ∧
      TwinRuns deniedSample deniedSample [.request one] [.request other] ∧
      (∃ arrived, AsksForRepository deniedSample.engine.link arrived ∧
        (deniedSample.afterAll [.request one]).engine.link.received = [arrived] ∧
        (deniedSample.afterAll [.request other]).engine.link.received = [arrived]) ∧
      endedSample.snapshot.isEnabled = true ∧ endedSample.stopped = true ∧ HasPassphrase one ∧
      Reports (endedSample.serve one).1 400 "Lifecycle manager has stopped" := by
  intro one other
  have unlocks : IsUnlockPath one.path := by decide
  have again : unlockBody? other = some ⟨"passphrase", some "another"⟩ := by decide +kernel
  have denied : deniedSample.unlockResult one = deniedSample.unlockResult other := by
    decide +kernel
  have respelled : Respelled one other :=
    ⟨rfl, rfl, .inr ⟨"passphrase", "one", "another", by decide, by decide, unlockBody_sample, again⟩⟩
  have twins : TwinRuns deniedSample deniedSample [.request one] [.request other] :=
    .cons (.unlocks rfl rfl unlocks respelled denied) (.nil _ _)
  obtain ⟨single, runs⟩ := passphrases_stay_local deniedSample
  obtain ⟨ended, -⟩ := passphrases_stay_local endedSample
  have brings : HasPassphrase one := hasPassphrase_sample
  obtain ⟨arrived, asks, received⟩ := (single rfl one unlocks).2.1.2
    ⟨reaches_repository _, rfl, brings⟩
  exact ⟨rfl, unlocks, twins, ⟨arrived, asks, received, (runs _ _ twins).symm.trans received⟩, rfl,
    rfl, brings, ((ended rfl one unlocks).2.2 rfl brings).1⟩

/-- Once the lifecycle has ended the last snapshot stays, but nothing is asked any more: the client
is told of the end. -/
theorem ended_lifecycle_asks_nothing :
    let request := passphraseSample "one" []
    endedSample.snapshot.isEnabled = true ∧ IsUnlockPath request.path ∧ HasPassphrase request ∧
      endedSample.engine.link.reaches repositoryRequest = true ∧
      (endedSample.serve request).2.engine.link.received = endedSample.engine.link.received ∧
      (endedSample.serve request).1 = (Error.ofSession .stopped).toResponse := by
  intro request
  have on : endedSample.snapshot.isEnabled = true := rfl
  have unlocks : IsUnlockPath request.path := by decide
  have brings : HasPassphrase request := hasPassphrase_sample
  have served := serve_of_ended on unlocks rfl brings
  exact ⟨on, unlocks, brings, reaches_repository _, by rw [served], by rw [served]⟩

end SealGate.Gateway
