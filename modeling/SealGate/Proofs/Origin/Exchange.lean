import SealGate.Proofs.Origin.Serving

/-! Exchanges with the origin. To ask the origin makes the log of requests longer and changes
nothing else, so between two states of a link it can be said what was asked and answered. An object
that is fetched is the body of such an answer; that there is none is known from an answer too. -/

namespace SealGate

open Http

namespace Origin

/-- An answer whose body is a stored object. -/
def Holds (response : Response ReadFault) (data : Bytes) : Prop :=
  (response.status = 200 ∨ response.status = 206) ∧ response.body.collect = .ok data

namespace Link

variable {before between later link : Link} {request : Request} {response : Response ReadFault}

/-- The same origin, to which some more requests have gone out. -/
structure Grows (before after : Link) : Prop where
  base : after.base = before.base
  answer : after.answer = before.answer
  sent : before.sent <+: after.sent

theorem Grows.refl (link : Link) : link.Grows link := ⟨rfl, rfl, List.prefix_refl _⟩

theorem Grows.trans (first : before.Grows between) (second : between.Grows later) :
    before.Grows later :=
  ⟨second.base.trans first.base, second.answer.trans first.answer,
    first.sent.trans second.sent⟩

theorem Grows.arrival (grows : before.Grows later) : later.arrival = before.arrival := by
  funext request
  rw [Link.arrival, Link.arrival, grows.base]

theorem Grows.reply (grows : before.Grows later) : later.reply = before.reply := by
  funext sent request
  rw [Link.reply, Link.reply, grows.base, grows.answer, grows.arrival]

theorem Grows.after (link : Link) (request : Request) : link.Grows (link.after request) :=
  ⟨rfl, rfl, List.prefix_append _ _⟩

/-- Between two states of a link the origin has given this answer to this request. -/
def Answered (before after : Link) (request : Request) (response : Response ReadFault) : Prop :=
  ∃ sent, before.sent <+: sent ∧ sent ++ [request] <+: after.sent ∧
    before.reply sent request = .ok (.response response)

theorem Answered.widen {first last : Link} (answered : before.Answered later request response)
    (early : first.Grows before) (late : later.Grows last) :
    first.Answered last request response := by
  obtain ⟨sent, behind, within, given⟩ := answered
  exact ⟨sent, early.sent.trans behind, within.trans late.sent, early.reply ▸ given⟩

/-! ### Asking -/

/-- The origin receives the request: there is a URL to ask, and a connection. -/
def reaches (link : Link) (request : Request) : Bool :=
  match link.reply link.sent request with
  | .error _ | .ok .unreachable | .ok .unconnected => false
  | .ok .closed | .ok .silent | .ok (.response _) => true

theorem reaches_of_response (answered : link.reply link.sent request = .ok (.response response)) :
    link.reaches request = true := by
  rw [reaches, answered]

theorem located_of_reaches (reached : link.reaches request = true) :
    ∃ url, locate link.base request = .ok url := by
  cases located : locate link.base request with
  | error url =>
    rw [reaches, Link.reply, located] at reached
    cases reached
  | ok url => exact ⟨url, rfl⟩

/-- The link when a request has been made: it has gone out, if it reaches the origin. -/
def asked (link : Link) (request : Request) : Link :=
  if link.reaches request then link.after request else link

theorem sent_asked (link : Link) (request : Request) :
    (link.asked request).sent = link.sent ++ if link.reaches request then [request] else [] := by
  rw [asked]
  split
  · rfl
  · exact (List.append_nil _).symm

/-- What the origin receives is what arrives of the request. -/
theorem received_asked (link : Link) (request : Request) :
    (link.asked request).received =
      link.received ++ if link.reaches request then [link.arrival request] else [] := by
  rw [asked]
  split
  · exact List.map_append
  · exact (List.append_nil _).symm

/-- How a request fails that has no response. -/
inductive Fails (link : Link) (request : Request) : Vault.Error → Prop
  | building (url : Option String) : link.reply link.sent request = .error url →
      Fails link request (.origin (.building url))
  | unreachable (url : String) : link.reply link.sent request = .ok .unreachable →
      Fails link request (.origin (.sending url))
  | unconnected : link.reply link.sent request = .ok .unconnected → Fails link request .timeout
  | closed (url : String) : link.reply link.sent request = .ok .closed →
      Fails link request (.origin (.sending url))
  | silent : link.reply link.sent request = .ok .silent → Fails link request .timeout

/-- There is a response, or there is none and the request fails. -/
theorem send_cases (request : Request) (link : Link) :
    (∃ response, link.reply link.sent request = .ok (.response response) ∧
      link.send request = (.ok response, link.asked request)) ∨
    ∃ error, Fails link request error ∧ link.send request = (.error error, link.asked request) := by
  cases located : locate link.base request with
  | error url =>
    have given : link.reply link.sent request = .error url := by rw [reply, located]; rfl
    refine .inr ⟨_, .building url given, ?_⟩
    simp only [send, located, asked, reaches, given, Bool.false_eq_true, if_false]
  | ok url =>
    have given : link.reply link.sent request =
        .ok (link.answer link.received (arriving url request)) := by rw [reply, located]; rfl
    cases answer : link.answer link.received (arriving url request) with
    | unreachable =>
      rw [answer] at given
      refine .inr ⟨_, .unreachable url.render given, ?_⟩
      simp only [send, located, answer, asked, reaches, given, Bool.false_eq_true, if_false]
    | unconnected =>
      rw [answer] at given
      refine .inr ⟨_, .unconnected given, ?_⟩
      simp only [send, located, answer, asked, reaches, given, Bool.false_eq_true, if_false]
    | closed =>
      rw [answer] at given
      refine .inr ⟨_, .closed url.render given, ?_⟩
      simp only [send, located, answer, asked, reaches, given, if_true, after]
    | silent =>
      rw [answer] at given
      refine .inr ⟨_, .silent given, ?_⟩
      simp only [send, located, answer, asked, reaches, given, if_true, after]
    | response response =>
      rw [answer] at given
      refine .inl ⟨response, given, ?_⟩
      simp only [send, located, answer, asked, reaches, given, if_true, after]

theorem Fails.unanswered {error : Vault.Error} (fails : Fails link request error)
    (response : Response ReadFault) : link.reply link.sent request ≠ .ok (.response response) := by
  cases fails <;> simp [*]

theorem Fails.other {error : Vault.Error} (fails : Fails link request error) :
    error ≠ .notFound := by
  cases fails <;> simp

theorem send_snd (request : Request) (link : Link) :
    (link.send request).2 = link.asked request := by
  rcases send_cases request link with ⟨_, -, sent⟩ | ⟨_, -, sent⟩ <;> rw [sent]

theorem fetch_snd (name : String) (range : Option String) (link : Link) :
    (link.fetch name range).2 = link.asked (objectRequest name range) :=
  send_snd (objectRequest name range) link

theorem stream_snd (name : String) (range : Option String) (link : Link) :
    (link.stream name range).2 = link.asked (objectRequest name range) :=
  send_snd (objectRequest name range) link

/-- The request goes out, or nothing does. -/
theorem send_link (request : Request) (link : Link) :
    (link.send request).2 = link ∨ (link.send request).2 = link.after request := by
  rw [send_snd, asked]
  split
  · exact .inr rfl
  · exact .inl rfl

/-- Some more requests have gone out, all of one kind. -/
def Asks (before after : Link) (kind : Request → Prop) : Prop :=
  ∃ asked, after.sent = before.sent ++ asked ∧ ∀ request ∈ asked, kind request

theorem Asks.nothing {kind : Request → Prop} (same : later.sent = before.sent) :
    before.Asks later kind :=
  ⟨[], by rw [same, List.append_nil], by simp⟩

theorem Asks.trans {kind : Request → Prop} (first : before.Asks between kind)
    (second : between.Asks later kind) : before.Asks later kind := by
  obtain ⟨asked, early, ofFirst⟩ := first
  obtain ⟨more, late, ofSecond⟩ := second
  refine ⟨asked ++ more, by rw [late, early, List.append_assoc], fun request mem => ?_⟩
  exact (List.mem_append.1 mem).elim (ofFirst request) (ofSecond request)

theorem asks_of_send {kind : Request → Prop} (link : Link) (of : kind request) :
    link.Asks (link.send request).2 kind := by
  rcases send_link request link with same | more
  · rw [same]
    exact .nothing rfl
  · rw [more]
    exact ⟨[request], rfl, by simpa using of⟩

theorem asks_of_fetch {kind : Request → Prop} (link : Link) {name : String}
    {range : Option String} (of : kind (objectRequest name range)) :
    link.Asks (link.fetch name range).2 kind := by
  rw [fetch_snd, ← send_snd]
  exact asks_of_send link of

theorem asks_of_stream {kind : Request → Prop} (link : Link) {name : String}
    {range : Option String} (of : kind (objectRequest name range)) :
    link.Asks (link.stream name range).2 kind := by
  rw [stream_snd, ← send_snd]
  exact asks_of_send link of

theorem send_grows (request : Request) (link : Link) : link.Grows (link.send request).2 := by
  rcases send_link request link with same | more
  · rw [same]
    exact .refl link
  · rw [more]
    exact .after link request

variable (name : String) (range : Option String)

theorem fetch_grows (link : Link) : link.Grows (link.fetch name range).2 :=
  send_grows (objectRequest name range) link

theorem stream_grows (link : Link) : link.Grows (link.stream name range).2 :=
  send_grows (objectRequest name range) link

theorem relay_grows (request : Request) (link : Link) : link.Grows (link.relay request).2 :=
  send_grows (relayed request) link

/-! ### What fetching gives -/

variable {name range}

theorem fetch_of_good
    (answered : link.reply link.sent (objectRequest name range) = .ok (.response response))
    (good : response.status = 200 ∨ response.status = 206) :
    (link.fetch name range).1 = response.body.collect.mapError ReadFault.toError := by
  rw [Link.fetch, send_of_response answered]
  simp only [bind, Except.bind, objectOf, if_pos good, Body.collect_mapError]

theorem fetch_always {user : Option String}
    (found : (locate "http://[::1]" (objectRequest name range)).toOption.map Net.Url.user =
      some user) (data : Bytes) :
    ((always (.response ⟨200, [], .ofBytes data⟩)).fetch name range).1 = .ok data :=
  fetch_of_good (reply_always found _ []) (.inl rfl)

theorem fetch_of_missing
    (answered : link.reply link.sent (objectRequest name range) = .ok (.response response))
    (missing : response.status = 404) : (link.fetch name range).1 = .error .notFound := by
  rw [Link.fetch, send_of_response answered]
  simp [bind, Except.bind, objectOf, missing]

theorem fetch_of_refused
    (answered : link.reply link.sent (objectRequest name range) = .ok (.response response))
    (good : ¬ (response.status = 200 ∨ response.status = 206)) (missing : response.status ≠ 404) :
    (link.fetch name range).1 = .error (.origin (.status response.status)) := by
  rw [Link.fetch, send_of_response answered]
  simp only [bind, Except.bind, objectOf, if_neg good, if_neg missing]

/-- Without a response there is an error, which is not that the object is missing. -/
theorem fetch_of_unanswered
    (failed : ∀ response,
      link.reply link.sent (objectRequest name range) ≠ .ok (.response response)) :
    ∃ error, (link.fetch name range).1 = .error error ∧ error ≠ .notFound := by
  rcases send_cases (objectRequest name range) link with ⟨response, given, -⟩ | ⟨error, fails, sent⟩
  · exact absurd given (failed response)
  · rw [Link.fetch, sent]
    exact ⟨error, rfl, fails.other⟩

/-- The answer to a fetch was given between the link before and after it. -/
theorem answered_of_fetch {result : Except Vault.Error Bytes}
    (answered : link.reply link.sent (objectRequest name range) = .ok (.response response))
    (h : link.fetch name range = (result, later)) :
    link.Answered later (objectRequest name range) response := by
  have after : (link.fetch name range).2 = later := congrArg Prod.snd h
  rw [fetch_snd, asked, reaches, answered] at after
  subst after
  exact ⟨link.sent, List.prefix_refl _, List.prefix_refl _, answered⟩

/-- An object that was fetched stands in an answer. -/
theorem holds_of_fetch {data : Bytes} (h : link.fetch name range = (.ok data, later)) :
    ∃ response, link.Answered later (objectRequest name range) response ∧
      Holds response data := by
  have got : (link.fetch name range).1 = .ok data := congrArg Prod.fst h
  by_cases answered : ∃ response,
      link.reply link.sent (objectRequest name range) = .ok (.response response)
  · obtain ⟨response, answered⟩ := answered
    refine ⟨response, answered_of_fetch answered h, ?_⟩
    by_cases good : response.status = 200 ∨ response.status = 206
    · rw [fetch_of_good answered good] at got
      cases held : response.body.collect with
      | error fault => rw [held] at got; cases got
      | ok bytes =>
        rw [held] at got
        obtain rfl := Except.ok.inj got
        exact ⟨good, held⟩
    by_cases missing : response.status = 404
    · rw [fetch_of_missing answered missing] at got
      cases got
    · rw [fetch_of_refused answered good missing] at got
      cases got
  · obtain ⟨error, failed, -⟩ := fetch_of_unanswered fun response same => answered ⟨response, same⟩
    rw [failed] at got
    cases got

/-- That there is no such object was said in an answer. -/
theorem missing_of_fetch (h : link.fetch name range = (.error .notFound, later)) :
    ∃ response, link.Answered later (objectRequest name range) response ∧
      response.status = 404 := by
  have got : (link.fetch name range).1 = .error .notFound := congrArg Prod.fst h
  by_cases answered : ∃ response,
      link.reply link.sent (objectRequest name range) = .ok (.response response)
  · obtain ⟨response, answered⟩ := answered
    refine ⟨response, answered_of_fetch answered h, ?_⟩
    by_cases missing : response.status = 404
    · exact missing
    by_cases good : response.status = 200 ∨ response.status = 206
    · rw [fetch_of_good answered good] at got
      cases held : response.body.collect with
      | error fault => cases fault <;> rw [held] at got <;> cases got
      | ok bytes => rw [held] at got; cases got
    · rw [fetch_of_refused answered good missing] at got
      cases got
  · obtain ⟨error, failed, other⟩ := fetch_of_unanswered fun response same =>
      answered ⟨response, same⟩
    rw [failed] at got
    exact absurd (Except.error.inj got) other

end Link

end Origin

end SealGate
