import SealGate.Gateway.Dispatch
import SealGate.Proofs.Origin.Exchange
import SealGate.Proofs.Session.Mailboxes
import SealGate.Proofs.Session.Run
import SealGate.Proofs.Vault.KeySlots
import SealGate.Proofs.Wire.Formats

/-! Unlocking is all or nothing. An attempt that fails, by a caller, by a request or by a command,
leaves snapshot, cache, engine and settings as they are, and nobody hears of it but the sender of a
refused command. One that succeeds publishes one snapshot with key, key id and index handle. -/

namespace SealGate

open Http Session

theorem Reader.Index.eq_of_ofKey {key : Vault.MasterKey} {index : Index}
    (h : Index.ofKey key = .ok index) : index = ⟨key, none⟩ := by
  unfold ofKey at h
  split at h
  · cases h
  · exact (Except.ok.inj h).symm

/-- A repository that is fetched and opens. -/
theorem Reader.unlock_of_fetched {reader : Reader} {passphrase : String} {data : Bytes}
    {repository : Vault.Repository} {unlocked : Vault.UnlockedKey}
    (fetched : (reader.link.fetch repositoryName none).1 = .ok data)
    (read : repositoryOf data = .ok repository)
    (opens : repository.unlock passphrase = .ok unlocked) :
    (reader.unlock passphrase).1 = .ok unlocked := by
  simp only [Reader.unlock, fetched, bind, Except.bind, read, opens]

namespace Gateway

/-- Everything but the link to the origin and the bus is as it was. -/
def Kept (g after : Gateway) : Prop :=
  after = { g with engine := { g.engine with link := after.engine.link }, bus := after.bus }

/-- One more snapshot is published, with a key, its id and an index handle that holds nothing yet;
the cache is empty, and everything but the link to the origin and the bus is as it was. -/
def Rekeyed (g : Gateway) (key : Vault.MasterKey) (keyId : String) (after : Gateway) : Prop :=
  ∃ load, g.snapshot.load? = some load ∧ key.bytes ≠ [] ∧ keyId ≠ "" ∧
    after = { g with
      engine := ⟨after.engine.link, g.engine.heads.clear⟩
      bus := after.bus
      snapshot := ⟨g.snapshot.version + 1, .enabled load (some ⟨key, keyId, ⟨key, none⟩⟩)⟩
      past := g.snapshot :: g.past }

/-- To try a passphrase changes no more of a reader than the link. -/
theorem link_of_tries {reader after : Reader} (tries : readerEngine.Tries reader after) :
    after = { reader with link := after.link } := by
  rcases tries with same | ⟨passphrase, tried⟩
  · rw [same]
  · rw [tried]
    rfl

theorem rekeyed_of_installed {g : Gateway} {tried : Reader}
    (tries : readerEngine.Tries g.engine tried) {load : Nat} {unlocked : Unlocked Reader.Index}
    (loaded : g.snapshot.load? = some load) (sound : unlocked.IsSound readerEngine) :
    g.Rekeyed unlocked.key unlocked.keyId
      ({ g with engine := tried }.installed readerEngine load unlocked) := by
  obtain ⟨key, keyId, index⟩ := unlocked
  have fresh : index = ⟨key, none⟩ := Reader.Index.eq_of_ofKey sound.index
  have heads : tried.heads = g.engine.heads := by rw [link_of_tries tries]
  refine ⟨load, loaded, sound.key, sound.keyId, ?_⟩
  simp only [Lifecycle.installed, Lifecycle.publish, readerEngine, Reader.forget, fresh, heads]

theorem Rekeyed.broadcast {g after : Gateway} {key : Vault.MasterKey} {keyId : String}
    (rekeyed : g.Rekeyed key keyId after) (notification : Notification) :
    g.Rekeyed key keyId (after.broadcast notification) := by
  obtain ⟨load, loaded, someKey, someId, published⟩ := rekeyed
  refine ⟨load, loaded, someKey, someId, ?_⟩
  rw [published]
  rfl

theorem requestUnlock_cases (g : Gateway) (passphrase : String) :
    ∃ after, ((∃ error, g.requestUnlock readerEngine passphrase = (.error error, after) ∧
          g.Kept after) ∨
        ∃ key keyId, g.requestUnlock readerEngine passphrase = (.ok keyId, after) ∧
          (g.engine.unlock passphrase).1 = .ok ⟨key, keyId⟩ ∧ g.Rekeyed key keyId after) ∧
      after.bus = g.bus := by
  unfold Lifecycle.requestUnlock
  split
  · exact ⟨g, .inl ⟨_, rfl, rfl⟩, rfl⟩
  obtain ⟨tried, tries, ⟨error, failed⟩ | ⟨load, unlocked, loaded, opened, sound, given⟩⟩ :=
    Lifecycle.unlock_cases readerEngine g passphrase
  · refine ⟨_, .inl ⟨error, failed, ?_⟩, rfl⟩
    simp only [Kept, ← link_of_tries tries]
  · exact ⟨_, .inr ⟨unlocked.key, _, given, opened, rekeyed_of_installed tries loaded sound⟩, rfl⟩

/-- A passphrase that opens the repository unlocks, while the lifecycle runs and is enabled. -/
theorem requestUnlock_of_opened {g : Gateway} {passphrase keyId : String} {key : Vault.MasterKey}
    (running : g.stopped = false) (on : g.snapshot.isEnabled = true)
    (opened : (g.engine.unlock passphrase).1 = .ok ⟨key, keyId⟩) (someKey : key.bytes ≠ [])
    (someId : keyId ≠ "") : (g.requestUnlock readerEngine passphrase).1 = .ok keyId := by
  obtain ⟨load, loaded⟩ := Snapshot.exists_load on
  have engine : readerEngine.unlock passphrase g.engine = g.engine.unlock passphrase := rfl
  simp only [Lifecycle.requestUnlock, running, Lifecycle.unlock, loaded, engine]
  rcases given : g.engine.unlock passphrase with ⟨result, state⟩
  rw [given] at opened
  subst opened
  have index : readerEngine.index key = .ok ⟨key, none⟩ := if_neg someKey
  simp only [Lifecycle.install, if_neg someKey, if_neg someId, index]
  rfl

theorem setMasterKey_rekeys (g : Gateway) (key : Vault.MasterKey) (keyId : String) :
    (∃ error, g.setMasterKey readerEngine key keyId = (.error error, g)) ∨
      ∃ after, g.setMasterKey readerEngine key keyId = (.ok (), after) ∧
        g.Rekeyed key keyId after ∧ after.bus = g.bus := by
  rcases Lifecycle.setMasterKey_cases readerEngine g key keyId with
    refused | ⟨load, unlocked, loaded, rfl, rfl, sound, given⟩
  · exact .inl refused
  · have tries : readerEngine.Tries g.engine g.engine := .inl rfl
    exact .inr ⟨_, given, rekeyed_of_installed tries loaded sound, rfl⟩

theorem link_install (g : Gateway) (load : Nat) (key : Vault.MasterKey) (keyId : String) :
    (g.install readerEngine load key keyId).2.engine.link = g.engine.link := by
  rcases Lifecycle.install_cases readerEngine g load key keyId with
    ⟨error, refused⟩ | ⟨unlocked, -, -, -, given⟩
  · rw [refused]
  · rw [given]
    rfl

/-- An attempt to unlock asks for the repository. -/
theorem link_requestUnlock {g : Gateway} (on : g.snapshot.isEnabled = true)
    (running : g.stopped = false) (passphrase : String) :
    (g.requestUnlock readerEngine passphrase).2.engine.link =
      g.engine.link.asked (Origin.Link.objectRequest Reader.repositoryName none) := by
  obtain ⟨load, loaded⟩ := Snapshot.exists_load on
  have asked : (g.engine.unlock passphrase).2.link =
      g.engine.link.asked (Origin.Link.objectRequest Reader.repositoryName none) :=
    Origin.Link.fetch_snd Reader.repositoryName none g.engine.link
  have engine : readerEngine.unlock passphrase g.engine = g.engine.unlock passphrase := rfl
  simp only [Lifecycle.requestUnlock, running, Lifecycle.unlock, loaded, engine]
  rcases given : g.engine.unlock passphrase with ⟨error | unlocked, reader⟩ <;> rw [given] at asked
  · exact asked
  · exact (link_install _ load unlocked.key unlocked.keyId).trans asked

/-! ### By a request -/

theorem serve_of_route {g : Gateway} {request : Request} {route : Route}
    (routed : route? g.snapshot.isEnabled request.path = some route) :
    g.serve request = (respond (g.handle route request).1, (g.handle route request).2) := by
  unfold serve dispatch
  rw [routed]

theorem serve_of_unrouted {g : Gateway} {request : Request}
    (unrouted : route? g.snapshot.isEnabled request.path = none) :
    (g.serve request).2 = (g.relay request).2 := by
  unfold serve dispatch
  simp only [unrouted]
  rcases g.relay request with ⟨error | response, after⟩ <;> rfl

theorem code_ofVault (error : Vault.Error) : (Error.ofVault error).code = 400 := by
  cases error <;> rfl

theorem code_ofSession (error : Session.Error) : (Error.ofSession error).code = 400 := by
  cases error with
  | vault cause => exact code_ofVault cause
  | notEnabled => rfl
  | settings cause => rfl
  | invalidKey cause => rfl
  | stopped => rfl

theorem code_of_passphraseOf {request : Request} {error : Error}
    (h : passphraseOf request = .error error) : error.code = 400 := by
  simp only [passphraseOf, requireMethod, bind, Except.bind] at h
  split at h
  · rename_i refused
    split at refused
    · cases refused
    · cases refused
      cases h
      rfl
  · split at h
    · cases h
      rfl
    · cases h

/-- A request to unlock that is refused answers 400 and changes nothing; else it answers 200, and
all consumers are told. -/
theorem serve_unlock_cases {g : Gateway} {request : Request}
    (routed : route? g.snapshot.isEnabled request.path = some .unlock) :
    ((g.serve request).1.status = 400 ∧ g.Kept (g.serve request).2 ∧
        (g.serve request).2.bus = g.bus) ∨
      ((g.serve request).1.status = 200 ∧ (∃ passphrase key keyId,
          passphraseOf request = .ok passphrase ∧
          (g.engine.unlock passphrase).1 = .ok ⟨key, keyId⟩ ∧
          g.Rekeyed key keyId (g.serve request).2) ∧
        (g.serve request).2.bus = g.bus.broadcast .unlocked) := by
  rw [serve_of_route routed, handle, handleUnlock]
  cases asked : passphraseOf request with
  | error error => exact .inl ⟨code_of_passphraseOf asked, rfl, rfl⟩
  | ok passphrase =>
    obtain ⟨after, ⟨error, failed, kept⟩ | ⟨key, keyId, done, opened, rekeyed⟩, quiet⟩ :=
      g.requestUnlock_cases passphrase
    · simp only [failed]
      exact .inl ⟨code_ofSession error, kept, quiet⟩
    · simp only [done]
      exact .inr ⟨rfl, ⟨passphrase, key, keyId, rfl, opened, rekeyed.broadcast .unlocked⟩,
        congrArg (Bus.broadcast · .unlocked) quiet⟩

theorem serve_of_unlocked {g : Gateway} {request : Request} {passphrase keyId : String}
    (routed : route? g.snapshot.isEnabled request.path = some .unlock)
    (given : passphraseOf request = .ok passphrase)
    (unlocked : (g.requestUnlock readerEngine passphrase).1 = .ok keyId) :
    (g.serve request).1.status = 200 := by
  rcases done : g.requestUnlock readerEngine passphrase with ⟨result, after⟩
  rw [done] at unlocked
  subst unlocked
  rw [serve_of_route routed, handle, handleUnlock, given]
  simp only [done]
  rfl

/-! ### By a command -/

theorem step_setMasterKey_cases {g : Gateway} {sender : Nat} {key : Bytes} {keyId : String}
    {rest : List Envelope} (waiting : g.bus.queue = ⟨sender, .setMasterKey key keyId⟩ :: rest) :
    (∃ error, g.Kept (g.step readerEngine) ∧ (g.step readerEngine).bus =
        ({ g.bus with queue := rest }.post sender (.refused error)).2) ∨
      (g.Rekeyed ⟨key⟩ keyId (g.step readerEngine) ∧
        (g.step readerEngine).bus = { g.bus with queue := rest }) := by
  unfold Lifecycle.step Bus.next?
  rw [waiting]
  simp only [Lifecycle.handle]
  rcases setMasterKey_rekeys { g with bus := { g.bus with queue := rest } } ⟨key⟩ keyId with
    ⟨error, refused⟩ | ⟨after, given, rekeyed, quiet⟩
  · simp only [refused]
    exact .inl ⟨_, rfl, rfl⟩
  · simp only [given]
    exact .inr ⟨rekeyed, quiet⟩

/-- An attempt to unlock and a master key that is sent either fail, and then nothing has changed and
at most the sender of the key is told, or publish one snapshot; all that are attached are told of an
unlock by request, once. -/
theorem unlock_all_or_nothing (g : Gateway) :
    (∀ passphrase, ∃ after, g.bus.Sends after.bus (fun _ => []) ∧
      ((∃ error, g.requestUnlock readerEngine passphrase = (.error error, after) ∧ g.Kept after) ∨
        ∃ key keyId, g.requestUnlock readerEngine passphrase = (.ok keyId, after) ∧
          (g.engine.unlock passphrase).1 = .ok ⟨key, keyId⟩ ∧ g.Rekeyed key keyId after)) ∧
    (∀ request, route? g.snapshot.isEnabled request.path = some .unlock →
      ∃ response after, g.serve request = (response, after) ∧
        (response.status = 400 ∧ g.Kept after ∧ g.bus.Sends after.bus (fun _ => []) ∨
          response.status = 200 ∧ (∃ passphrase key keyId, passphraseOf request = .ok passphrase ∧
              (g.engine.unlock passphrase).1 = .ok ⟨key, keyId⟩ ∧ g.Rekeyed key keyId after) ∧
            g.bus.Sends after.bus fun id => if g.bus.isAttached id then [.unlocked] else [])) ∧
    ∀ sender key keyId rest, g.bus.queue = ⟨sender, .setMasterKey key keyId⟩ :: rest →
      (g.Kept (g.step readerEngine) ∧ ∃ reason,
          g.bus.Sends (g.step readerEngine).bus fun id =>
            if id = sender ∧ g.bus.isAttached sender then [.refused reason] else []) ∨
        g.Rekeyed ⟨key⟩ keyId (g.step readerEngine) ∧
          g.bus.Sends (g.step readerEngine).bus fun _ => [] := by
  refine ⟨?_, ?_, ?_⟩
  · intro passphrase
    obtain ⟨after, outcome, quiet⟩ := g.requestUnlock_cases passphrase
    exact ⟨after, quiet ▸ .nothing rfl, outcome⟩
  · intro request routed
    refine ⟨_, _, rfl, ?_⟩
    rcases serve_unlock_cases routed with ⟨status, kept, quiet⟩ | ⟨status, rekeyed, told⟩
    · exact .inl ⟨status, kept, quiet ▸ .nothing rfl⟩
    · exact .inr ⟨status, rekeyed, told ▸ Bus.sends_broadcast g.bus .unlocked⟩
  · intro sender key keyId rest waiting
    rcases step_setMasterKey_cases waiting with ⟨reason, kept, told⟩ | ⟨rekeyed, quiet⟩
    · refine .inl ⟨kept, reason, ?_⟩
      rw [told]
      exact Bus.sends_post { g.bus with queue := rest } sender (.refused reason)
    · exact .inr ⟨rekeyed, quiet ▸ .nothing rfl⟩

/-- A repository with one slot. -/
def repositorySample : Vault.Repository :=
  ⟨1, [.made "slot" "one" (List.replicate 16 7) (List.replicate 12 2) (List.replicate 32 6)]⟩

/-- An enabled gateway before an origin with a repository, and a consumer that has sent a key. -/
def openingSample : Gateway :=
  let answer : Response Origin.ReadFault := ⟨200, [], .ofBytes repositorySample.toNode.toBytes⟩
  { Lifecycle.initial (Reader.ofLink (.always (.response answer))) (fun _ => none)
      (.ofFile .missing) with
    bus := { Bus.empty.attach.2 with queue := [⟨1, .setMasterKey (List.replicate 32 1) "sent"⟩] }
    snapshot := ⟨2, .enabled 0 none⟩ }

def unlockingSample : Request :=
  ⟨"POST", .here ⟨"/api/repo/unlock", none⟩, [],
    Bytes.ofText "\x7b\"type\":\"passphrase\",\"passphrase\":\"one\"\x7d"⟩

theorem opened_sample :
    (openingSample.engine.unlock "one").1 = .ok ⟨⟨List.replicate 32 6⟩, "slot"⟩ := by
  have located : (Origin.locate "http://[::1]"
      (Origin.Link.objectRequest Reader.repositoryName none)).toOption.map Net.Url.user =
        some none := by decide +kernel
  have fetched : (openingSample.engine.link.fetch Reader.repositoryName none).1 =
      .ok repositorySample.toNode.toBytes :=
    Origin.Link.fetch_always located _
  have read : Reader.repositoryOf repositorySample.toNode.toBytes = .ok repositorySample := by
    rw [Reader.repositoryOf, Json.Node.ofBytes?_toBytes (Vault.Repository.isProper_toNode _),
      Option.bind_some, Vault.Repository.ofNode?_toNode]
  have unlocked : repositorySample.unlock "one" = .ok ⟨⟨List.replicate 32 6⟩, "slot"⟩ :=
    (Vault.Repository.unlock_eq_ok_iff rfl).2 ⟨[], _, [], rfl, by simp,
      Vault.KeySlot.opens_made _ _ (by decide) (by decide) (by decide), rfl⟩
  exact Reader.unlock_of_fetched fetched read unlocked

theorem unlock_all_or_nothing_of_opening :
    route? openingSample.snapshot.isEnabled unlockingSample.path = some .unlock ∧
      (∃ after, openingSample.requestUnlock readerEngine "one" = (.ok "slot", after) ∧
        openingSample.Rekeyed ⟨List.replicate 32 6⟩ "slot" after) ∧
      (∃ response after, openingSample.serve unlockingSample = (response, after) ∧
        response.status = 200 ∧ openingSample.Rekeyed ⟨List.replicate 32 6⟩ "slot" after ∧
        openingSample.bus.Sends after.bus fun id =>
          if openingSample.bus.isAttached id then [.unlocked] else []) ∧
      openingSample.bus.isAttached 1 = true ∧
      openingSample.bus.queue = [⟨1, .setMasterKey (List.replicate 32 1) "sent"⟩] ∧
      openingSample.Rekeyed ⟨List.replicate 32 1⟩ "sent" (openingSample.step readerEngine) := by
  have routed : route? openingSample.snapshot.isEnabled unlockingSample.path = some .unlock := by
    decide
  obtain ⟨asked, served, sent⟩ := unlock_all_or_nothing openingSample
  have unlocks : (openingSample.requestUnlock readerEngine "one").1 = .ok "slot" :=
    requestUnlock_of_opened rfl rfl opened_sample (by decide) (by decide)
  have given : passphraseOf unlockingSample = .ok "one" := by
    have brought : (passphraseOf unlockingSample).toOption = some "one" := by decide +kernel
    cases read : passphraseOf unlockingSample with
    | error error => rw [read] at brought; cases brought
    | ok passphrase => rw [read] at brought; exact congrArg _ (Option.some.inj brought)
  refine ⟨routed, ?_, ?_, rfl, rfl, ?_⟩
  · obtain ⟨after, -, ⟨error, failed, -⟩ | ⟨key, keyId, done, opened, rekeyed⟩⟩ := asked "one"
    · rw [failed] at unlocks
      cases unlocks
    · cases opened_sample.symm.trans opened
      exact ⟨after, done, rekeyed⟩
  · obtain ⟨response, after, answered, ⟨refused, -⟩ | ⟨good, rekeyed, told⟩⟩ :=
      served unlockingSample routed
    · have status := serve_of_unlocked routed given unlocks
      rw [answered, refused] at status
      cases status
    · obtain ⟨passphrase, key, keyId, brought, opened, rekeyed⟩ := rekeyed
      cases given.symm.trans brought
      cases opened_sample.symm.trans opened
      exact ⟨response, after, answered, good, rekeyed, told⟩
  · rcases sent 1 (List.replicate 32 1) "sent" [] rfl with ⟨kept, -⟩ | ⟨rekeyed, -⟩
    · have version := congrArg (fun after : Gateway => after.snapshot.version) kept
      cases version
    · exact rekeyed

end Gateway

end SealGate
