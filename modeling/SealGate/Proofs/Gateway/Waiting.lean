import SealGate.Proofs.Gateway.Answers
import SealGate.Proofs.Origin.Lateness

/-! What a request waits for. To serve it the origin is asked twice at most: for a client's request
that is relayed, for the repository, for the index unless it is held, for the start of a file unless
its head is cached, or for the content. Whatever of this comes too late, the error of the handler is
a timeout; only the body of the origin's description of itself is read in another way, and then the
error has the words of whoever read it. -/

namespace SealGate

open Http Outcome Session Vault Origin Reader

namespace Reader

/-! ### What the reader waits for -/

variable {reader : Reader} {key : MasterKey} {fileId : String}

theorem Index.query_of_late {α : Type} {index : Index} {link : Link} (ask : Catalog → α)
    (unheld : index.catalog = none)
    (late : (Awaited.object objectName none).IsLate link) :
    (index.query ask link).1 = .error .timeout := by
  obtain ⟨indexKey, catalog⟩ := index
  subst unheld
  have fetched := Link.fetch_of_late late
  rcases given : link.fetch objectName none with ⟨result, after⟩
  rw [given] at fetched
  subst fetched
  simp only [query, held, refetch, fetch, given]
  rfl

theorem head_of_late (key : MasterKey) (unheld : reader.heads.lookup? fileId = none)
    (late : (Awaited.object fileId (some headRange)).IsLate reader.link) :
    (reader.head key fileId).1 = .error .timeout := by
  have fetched := Link.fetch_of_late late
  have missed := (reader.heads.get_fst fileId).trans unheld
  rcases looked : reader.heads.get fileId with ⟨held, moved⟩
  rw [looked] at missed
  subst missed
  simp only [head, looked, fetched, Except.bind]

theorem decrypt_of_late {request : Request} {range : Option ByteRange} {head : Head}
    {fileKey : Cipher.Key} {after : Reader} (named : fileId? request.path = some fileId)
    (asked : requestedRange request = .ok range)
    (found : reader.head key fileId = (.ok (head, fileKey), after))
    (content : HasContent head range)
    (late : (Awaited.answer (Link.objectRequest fileId (some (contentRange head range)))).IsLate
      after.link) : (reader.decrypt key request).1 = .error .timeout := by
  rw [decrypt_eq_readFile named asked, readFile_of_found found content, Link.stream_of_late late]
  rfl

/-! ### What the reader asks for -/

section Asks

variable {kind : Request → Prop}

theorem Index.query_asks {α : Type} {index : Index} {link : Link} (ask : Catalog → α)
    (of : index.catalog = none → kind (Link.objectRequest objectName none)) :
    link.Asks (index.query ask link).2.2 kind := by
  obtain ⟨indexKey, catalog⟩ := index
  cases catalog with
  | some catalog => exact .nothing rfl
  | none =>
    have asked : (query ask ⟨indexKey, none⟩ link).2.2 = (fetch ⟨indexKey, none⟩ link).2 := by
      simp only [query, held, refetch]
      rcases fetch ⟨indexKey, none⟩ link with ⟨error | catalog, later⟩ <;> rfl
    rw [asked, fetch_link]
    exact Link.asks_of_fetch link (of rfl)

theorem head_asks (key : MasterKey) (of : reader.heads.lookup? fileId = none → kind (peek fileId)) :
    reader.link.Asks (reader.head key fileId).2.link kind := by
  have first := reader.heads.get_fst fileId
  unfold head
  rcases looked : reader.heads.get fileId with ⟨held | held, moved⟩
  · rw [looked] at first
    have asked := Link.asks_of_send reader.link (of first.symm)
    simp only
    split
    · exact asked
    · exact asked
  · exact .nothing rfl

/-- To read a file its head is asked for unless it is cached, and then there may be content. -/
theorem decrypt_asks {request : Request}
    (ofHead : ∀ fileId range, fileId? request.path = some fileId →
      requestedRange request = .ok range → reader.heads.lookup? fileId = none →
      kind (peek fileId))
    (ofContent : ∀ fileId range head fileKey after, fileId? request.path = some fileId →
      requestedRange request = .ok range →
      reader.head key fileId = (.ok (head, fileKey), after) → HasContent head range →
      kind (Link.objectRequest fileId (some (contentRange head range)))) :
    reader.link.Asks (reader.decrypt key request).2.link kind := by
  rcases named : fileId? request.path with _ | fileId
  · simp only [decrypt, named]
    exact .nothing rfl
  rcases asked : requestedRange request with fault | range
  · simp only [decrypt, named, asked]
    exact .nothing rfl
  have first := head_asks key (ofHead fileId range named asked)
  rw [decrypt_eq_readFile named asked]
  obtain ⟨error, after, failed, read⟩ |
    ⟨head, fileKey, after, found, ⟨_, -, -, read⟩ | ⟨content, read⟩⟩ :=
    readFile_cases reader key fileId range
  · rw [failed] at first
    rw [read]
    exact first
  · rw [found] at first
    rw [read]
    exact first
  · rw [found] at first
    rw [read]
    exact first.trans (Link.asks_of_stream after.link
      (ofContent fileId range head fileKey after named asked found content))

end Asks

end Reader

namespace Gateway

/-! ### What serving waits for -/

/-- The request itself is relayed when it is served. -/
inductive Relays (g : Gateway) (request : Request) : Prop
  | passed : route? g.snapshot.isEnabled request.path = none → Relays g request
  | unlock : route? g.snapshot.isEnabled request.path = some .originUnlock → Relays g request
  | info : route? g.snapshot.isEnabled request.path = some .info → request.method = "GET" →
      Relays g request

/-- The place that a reading route takes its path behind. -/
inductive ReadsBehind : Route → String → Prop
  | tree : ReadsBehind .tree "/api/tree"
  | metadata : ReadsBehind .metadata "/api/metadata/"

/-- What is awaited of the origin while a request is served, and over which link: what is asked for
second, over a link that the first request has gone out on. -/
inductive Awaits (g : Gateway) (request : Request) : Link → Awaited → Prop
  /-- The answer to a relayed request. -/
  | relayed : g.Relays request → Awaits g request g.engine.link (.answer (Link.relayed request))
  /-- The origin's description of itself. -/
  | description : route? g.snapshot.isEnabled request.path = some .info → request.method = "GET" →
      Awaits g request g.engine.link (.body (Link.relayed request))
  /-- The index, to count the files. -/
  | count {response : Response BodyFault} {info : ServerInfo} {after : Gateway}
      {unlocked : Unlocked Index} :
      route? g.snapshot.isEnabled request.path = some .info → request.method = "GET" →
      g.relay request = (.ok response, after) → infoOf response = .ok info →
      after.snapshot.unlocked? = some unlocked → unlocked.index.catalog = none →
      Awaits g request after.engine.link (.object Index.objectName none)
  /-- The repository, to try a passphrase. -/
  | repository {passphrase : String} :
      route? g.snapshot.isEnabled request.path = some .unlock →
      passphraseOf request = .ok passphrase → g.stopped = false →
      Awaits g request g.engine.link (.object repositoryName none)
  /-- The index, to look a path up. -/
  | index {route : Route} {lead path : String} {unlocked : Unlocked Index} :
      route? g.snapshot.isEnabled request.path = some route → ReadsBehind route lead →
      g.requireUnlocked request = .ok unlocked → pathAfter request lead = .ok path →
      unlocked.index.catalog = none →
      Awaits g request g.engine.link (.object Index.objectName none)
  /-- The start of a file, to tell what is sealed in it. -/
  | facts {unlocked : Unlocked Index} {target fileId : String} {entry : Entry} {after : Gateway} :
      route? g.snapshot.isEnabled request.path = some .metadata →
      g.requireUnlocked request = .ok unlocked →
      pathAfter request "/api/metadata/" = .ok target →
      g.askIndex (askEntry target) unlocked = (.ok (some entry), after) →
      entry.fileId = some fileId →
      after.engine.heads.lookup? fileId = none →
      Awaits g request after.engine.link (.object fileId (some headRange))
  /-- The start of a file, to read it. -/
  | start {unlocked : Unlocked Index} {fileId : String} {range : Option ByteRange} :
      route? g.snapshot.isEnabled request.path = some .file →
      g.requireUnlocked request = .ok unlocked → fileId? request.path = some fileId →
      requestedRange request = .ok range → g.engine.heads.lookup? fileId = none →
      Awaits g request g.engine.link (.object fileId (some headRange))
  /-- The content of a file. -/
  | content {unlocked : Unlocked Index} {fileId : String} {range : Option ByteRange} {head : Head}
      {fileKey : Cipher.Key} {after : Reader} :
      route? g.snapshot.isEnabled request.path = some .file →
      g.requireUnlocked request = .ok unlocked → fileId? request.path = some fileId →
      requestedRange request = .ok range →
      g.engine.head unlocked.key fileId = (.ok (head, fileKey), after) → HasContent head range →
      Awaits g request after.link
        (.answer (Link.objectRequest fileId (some (contentRange head range))))

variable {g : Gateway} {request : Request} {link : Link} {awaited : Awaited}

/-! ### When it comes too late -/

theorem relay_of_late (late : (Awaited.answer (Link.relayed request)).IsLate g.engine.link) :
    g.relay request = (.error .timeout, (g.relay request).2) := by
  refine Prod.ext ?_ rfl
  rw [relay_eq, Link.send_of_late late]
  rfl

/-- What is told if the body of the origin's description does not end in time. -/
def stalledText : String := "error decoding response body"

theorem infoOf_of_stalls {response : Response ReadFault}
    (stalled : response.body.collect = .error .timedOut) :
    infoOf (shown response) = .error (.failure (.vault (.origin (.reported stalledText)))) := by
  have held := (Body.join_items response.body).trans stalled
  have read : (shown response).body.collect = .error (.origin .timedOut) :=
    (Body.join_map_mapError BodyFault.origin response.body.items).trans (congrArg _ held)
  simp only [infoOf, read]
  rfl

theorem askIndex_of_late {α : Type} {answer : Catalog → α} {unlocked : Unlocked Index}
    (unheld : unlocked.index.catalog = none)
    (late : (Awaited.object Index.objectName none).IsLate g.engine.link) :
    (g.askIndex (Index.query answer) unlocked).1 = .error .timeout := by
  have failed := Index.query_of_late answer unheld late
  simp only [askIndex, failed]
  rfl

/-! ### The handlers -/

theorem relay_of_reply {response : Response ReadFault}
    (answered : g.engine.link.reply g.engine.link.sent (Link.relayed request) =
      .ok (.response response)) :
    g.relay request = (.ok (shown response), (g.relay request).2) := by
  refine Prod.ext ?_ rfl
  rw [relay_eq, Link.send_of_response answered]
  rfl

theorem handleInfo_of_stalls {response : Response ReadFault} (method : request.method = "GET")
    (stalls : g.engine.link.Stalls (Link.relayed request) response) :
    (g.handleInfo request).1 = .error (.failure (.vault (.origin (.reported stalledText)))) := by
  rw [handleInfo, requireMethod_eq_ok_iff.2 method, relay_of_reply stalls.answered]
  simp only [infoOf_of_stalls stalls.stalled]

theorem handleInfo_of_late {response : Response BodyFault} {info : ServerInfo} {after : Gateway}
    {unlocked : Unlocked Index} (method : request.method = "GET")
    (relayed : g.relay request = (.ok response, after)) (told : infoOf response = .ok info)
    (known : after.snapshot.unlocked? = some unlocked) (unheld : unlocked.index.catalog = none)
    (late : (Awaited.object Index.objectName none).IsLate after.engine.link) :
    (g.handleInfo request).1 = .error .timeout := by
  have failed : (after.askIndex Index.size unlocked).1 = .error .timeout :=
    askIndex_of_late unheld late
  rw [handleInfo, requireMethod_eq_ok_iff.2 method, relayed]
  simp only [told, known, failed]
  rfl

theorem handleUnlock_of_late {passphrase : String} {load : Nat}
    (given : passphraseOf request = .ok passphrase) (running : g.stopped = false)
    (loaded : g.snapshot.load? = some load)
    (late : (Awaited.object repositoryName none).IsLate g.engine.link) :
    (g.handleUnlock request).1 = .error .timeout := by
  have tried : (readerEngine.unlock passphrase g.engine).1 = .error .timeout := by
    have fetched := Link.fetch_of_late late
    simp only [readerEngine, Reader.unlock, fetched]
    rfl
  have failed : (g.requestUnlock readerEngine passphrase).1 = .error (.vault .timeout) := by
    simp only [Lifecycle.requestUnlock, running, Bool.false_eq_true, if_false, Lifecycle.unlock,
      loaded]
    rcases opened : readerEngine.unlock passphrase g.engine with ⟨result, state⟩
    rw [opened] at tried
    subst tried
    rfl
  rcases refused : g.requestUnlock readerEngine passphrase with ⟨result, after⟩
  rw [refused] at failed
  subst failed
  simp only [handleUnlock, given, refused]
  rfl

/-- Both routes that read a path look it up in the index first. -/
theorem handle_of_unheld {route : Route} {lead path : String} {unlocked : Unlocked Index}
    (behind : ReadsBehind route lead) (required : g.requireUnlocked request = .ok unlocked)
    (read : pathAfter request lead = .ok path) (unheld : unlocked.index.catalog = none)
    (late : (Awaited.object Index.objectName none).IsLate g.engine.link) :
    (g.handle route request).1 = .error .timeout := by
  have ready := ready_eq_ok_iff.2 ⟨required, read⟩
  cases behind with
  | tree =>
    have failed : (g.askIndex (Index.listFolder (absolute path)) unlocked).1 = .error .timeout := by
      rw [Index.listFolder_absolute]
      exact askIndex_of_late unheld late
    rw [handle, handleTree, ready]
    simp only [failed]
    rfl
  | metadata =>
    obtain ⟨answer, query⟩ := askEntry_eq_query path
    have failed : (g.askIndex (askEntry path) unlocked).1 = .error .timeout := by
      rw [query]
      exact askIndex_of_late unheld late
    rcases asked : g.askIndex (askEntry path) unlocked with ⟨result, after⟩
    rw [asked] at failed
    subst failed
    rw [handle, handleMetadata, ready]
    simp only [asked]

theorem handleMetadata_of_late {unlocked : Unlocked Index} {target fileId : String}
    {entry : Entry} {after : Gateway} (required : g.requireUnlocked request = .ok unlocked)
    (read : pathAfter request "/api/metadata/" = .ok target)
    (asked : g.askIndex (askEntry target) unlocked = (.ok (some entry), after))
    (named : entry.fileId = some fileId) (unheld : after.engine.heads.lookup? fileId = none)
    (late : (Awaited.object fileId (some headRange)).IsLate after.engine.link) :
    (g.handleMetadata request).1 = .error .timeout := by
  have failed : (after.engine.facts unlocked.key fileId).1 = .error .timeout := by
    have head := head_of_late unlocked.key unheld late
    simp only [facts, head]
    rfl
  rw [handleMetadata, ready_eq_ok_iff.2 ⟨required, read⟩]
  simp only [asked, Option.bind_some, named, Option.map_some, failed]
  rfl

theorem handleFile_of_late {unlocked : Unlocked Index}
    (required : g.requireUnlocked request = .ok unlocked)
    (failed : (g.engine.decrypt unlocked.key request).1 = .error .timeout) :
    (g.handleFile request).1 = .error .timeout := by
  rw [handleFile, required]
  simp only [failed]
  rfl

/-- How the error of a handler reads when what it awaits comes too late. -/
def lateError : Awaited → Error
  | .body _ => .failure (.vault (.origin (.reported stalledText)))
  | _ => .timeout

theorem handle_of_late {route : Route} (awaits : g.Awaits request link awaited)
    (late : awaited.IsLate link) (routed : route? g.snapshot.isEnabled request.path = some route) :
    (g.handle route request).1 = .error (lateError awaited) := by
  have same {own : Route} (found : route? g.snapshot.isEnabled request.path = some own) :
      route = own := Option.some.inj (routed.symm.trans found)
  cases awaits with
  | relayed relays =>
    have failed := relay_of_late late
    cases relays with
    | passed unrouted => rw [unrouted] at routed; cases routed
    | unlock found =>
      rw [same found, handle, handleOriginUnlock, failed]
      rfl
    | info found method =>
      rw [same found, handle, handleInfo, requireMethod_eq_ok_iff.2 method, failed]
      rfl
  | description found method =>
    obtain ⟨response, stalls⟩ := late
    rw [same found]
    exact handleInfo_of_stalls method stalls
  | count found method relayed told known unheld =>
    rw [same found]
    exact handleInfo_of_late method relayed told known unheld late
  | repository found given running =>
    obtain ⟨load, loaded⟩ := Snapshot.exists_load (isEnabled_of_routed found (by simp))
    rw [same found]
    exact handleUnlock_of_late given running loaded late
  | index found behind required read unheld =>
    rw [same found]
    exact handle_of_unheld behind required read unheld late
  | facts found required read asked named unheld =>
    rw [same found]
    exact handleMetadata_of_late required read asked named unheld late
  | @start unlocked fileId range found required named asked unheld =>
    rw [same found]
    have failed := head_of_late unlocked.key unheld late
    rcases given : g.engine.head unlocked.key fileId with ⟨result, after⟩
    rw [given] at failed
    subst failed
    refine handleFile_of_late required ?_
    rw [decrypt_eq_readFile named asked, readFile_of_unfound given]
  | content found required named asked opened content =>
    rw [same found]
    exact handleFile_of_late required (decrypt_of_late named asked opened content late)

/-! ### Nothing else is asked for -/

/-- A request is made for something that is awaited while another request is served. -/
def IsAwaited (g : Gateway) (request asked : Request) : Prop :=
  ∃ link awaited, g.Awaits request link awaited ∧ awaited.request = asked

theorem relay_awaited (relays : g.Relays request) :
    g.engine.link.Asks (g.relay request).2.engine.link (g.IsAwaited request) :=
  Link.asks_of_send _ ⟨_, _, .relayed relays, rfl⟩

theorem handleInfo_awaited (routed : route? g.snapshot.isEnabled request.path = some .info) :
    g.engine.link.Asks (g.handleInfo request).2.engine.link (g.IsAwaited request) := by
  unfold handleInfo
  split
  · exact .nothing rfl
  rename_i allowed
  have method := requireMethod_eq_ok_iff.1 allowed
  have first := relay_awaited (.info routed method)
  rcases given : g.relay request with ⟨error | response, between⟩ <;> rw [given] at first
  · exact first
  simp only
  split
  · exact first
  rename_i info told
  split
  · exact first
  · rename_i unlocked known
    refine first.trans (Index.query_asks Catalog.size fun unheld => ?_)
    exact ⟨_, _, .count routed method given told known unheld, rfl⟩

theorem handleUnlock_awaited (routed : route? g.snapshot.isEnabled request.path = some .unlock) :
    g.engine.link.Asks (g.handleUnlock request).2.engine.link (g.IsAwaited request) := by
  have on := isEnabled_of_routed routed (by simp)
  unfold handleUnlock
  split
  · exact .nothing rfl
  rename_i passphrase usable
  have asked : g.engine.link.Asks (g.requestUnlock readerEngine passphrase).2.engine.link
      (g.IsAwaited request) := by
    cases running : g.stopped with
    | true =>
      rw [Lifecycle.requestUnlock, if_pos running]
      exact .nothing rfl
    | false =>
      rw [link_requestUnlock on running, ← Link.send_snd]
      exact Link.asks_of_send _ ⟨_, _, .repository routed usable running, rfl⟩
  rcases given : g.requestUnlock readerEngine passphrase with ⟨error | keyId, after⟩ <;>
    rw [given] at asked <;> exact asked

theorem handleTree_awaited (routed : route? g.snapshot.isEnabled request.path = some .tree) :
    g.engine.link.Asks (g.handleTree request).2.engine.link (g.IsAwaited request) := by
  unfold handleTree
  split
  · exact .nothing rfl
  · rename_i unlocked path ready
    obtain ⟨required, read⟩ := ready_eq_ok_iff.1 ready
    simp only [Index.listFolder_absolute]
    refine Index.query_asks (·.listFolder (absolute path)) fun unheld => ?_
    exact ⟨_, _, .index routed .tree required read unheld, rfl⟩

theorem handleMetadata_awaited
    (routed : route? g.snapshot.isEnabled request.path = some .metadata) :
    g.engine.link.Asks (g.handleMetadata request).2.engine.link (g.IsAwaited request) := by
  unfold handleMetadata
  split
  · exact .nothing rfl
  rename_i unlocked target ready
  obtain ⟨required, read⟩ := ready_eq_ok_iff.1 ready
  obtain ⟨answer, query⟩ := askEntry_eq_query target
  have first : g.engine.link.Asks (g.askIndex (askEntry target) unlocked).2.engine.link
      (g.IsAwaited request) := by
    rw [query]
    refine Index.query_asks answer fun unheld => ?_
    exact ⟨_, _, .index routed .metadata required read unheld, rfl⟩
  rcases asked : g.askIndex (askEntry target) unlocked with ⟨error | found, between⟩ <;>
    rw [asked] at first
  · exact first
  simp only
  split
  · exact first
  · rename_i entry fileId known
    obtain ⟨other, rfl, some⟩ := Option.bind_eq_some_iff.1 known
    obtain ⟨name, named, same⟩ := Option.map_eq_some_iff.1 some
    obtain ⟨rfl, rfl⟩ := Prod.mk.inj same
    refine first.trans (head_asks unlocked.key fun unheld => ?_)
    exact ⟨_, _, .facts routed required read asked named unheld, rfl⟩

theorem handleFile_awaited (routed : route? g.snapshot.isEnabled request.path = some .file) :
    g.engine.link.Asks (g.handleFile request).2.engine.link (g.IsAwaited request) := by
  unfold handleFile
  split
  · exact .nothing rfl
  · rename_i unlocked required
    refine decrypt_asks (fun fileId range named asked unheld => ?_)
      fun fileId range head fileKey after named asked found content => ?_
    · exact ⟨_, _, .start routed required named asked unheld, rfl⟩
    · exact ⟨_, _, .content routed required named asked found content, rfl⟩

/-- Whatever is asked of the origin while a request is served is awaited. -/
theorem serve_awaited (g : Gateway) (request : Request) :
    g.engine.link.Asks (g.serve request).2.engine.link (g.IsAwaited request) := by
  rcases routed : route? g.snapshot.isEnabled request.path with _ | route
  · rw [serve_of_unrouted routed]
    exact relay_awaited (.passed routed)
  rw [serve_of_route routed]
  cases route with
  | info => exact handleInfo_awaited routed
  | unlock => exact handleUnlock_awaited routed
  | tree => exact handleTree_awaited routed
  | metadata => exact handleMetadata_awaited routed
  | file => exact handleFile_awaited routed
  | originUnlock =>
    have relayed := relay_awaited (.unlock routed)
    rw [handle, handleOriginUnlock]
    rcases given : g.relay request with ⟨error | response, after⟩ <;> rw [given] at relayed
    · exact relayed
    simp only
    split
    · exact relayed
    · exact relayed

end Gateway

end SealGate
