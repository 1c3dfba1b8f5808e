import SealGate.Proofs.Gateway.Answers
import SealGate.Proofs.Http.RangeGrammar

/-! Requests without an answer. The length of one range, from the first place to the farthest, does
not fit 64 bits, and to compute it is a panic: the connection ends without an answer, and the state
stays as it is. No stored data and no answer of the origin can bring this about, and no other
handler; so every other request is answered. -/

namespace SealGate

open Http Outcome Session Vault Origin Reader

namespace Vault

/-- The error that stands for a length which runs over. -/
def overflow : Error := .invalidRequest (.rangeHeader (.range .overflow))

/-- A step never runs over. -/
abbrev Calm {α : Type} (step : Except Error α) : Prop := Blames (· ≠ overflow) step

/-! ### Stored data -/

theorem calm_corrupted {α : Type} (cause : Corruption) :
    Calm (.error (.corrupted cause) : Except Error α) := blames_error (by simp [overflow])

theorem calm_parse (data : Bytes) : Calm (Header.parse data) := by
  unfold Header.parse
  split
  · exact calm_corrupted _
  simp only
  split
  · exact calm_corrupted _
  split
  · exact calm_corrupted _
  split
  · exact calm_corrupted _
  split
  · exact calm_corrupted _
  · exact blames_ok _

theorem calm_unwrap (header : Header) (master : MasterKey) : Calm (header.unwrap master) := by
  unfold Header.unwrap
  split
  · exact calm_corrupted _
  split
  · exact calm_corrupted _
  split
  · exact calm_corrupted _
  · exact blames_ok _

theorem calm_packet (stored : Bytes) (key : Cipher.Key) (sequence : Nat) :
    Calm (Packet.decode stored key sequence) := by
  unfold Packet.decode
  iterate 5
    split
    · exact calm_corrupted _
  split
  · exact calm_corrupted _
  · exact blames_ok _

theorem calm_decodeFrom (key : Cipher.Key) (packets : List Bytes) (sequence : Nat) :
    Calm (Packet.decodeFrom key sequence packets) := by
  induction packets generalizing sequence with
  | nil => exact blames_ok _
  | cons stored rest ih =>
    exact (calm_packet stored key sequence).bind fun _ => (ih _).bind fun _ => blames_ok _

theorem calm_split (plain : Bytes) : Calm (FileInfo.split plain) := by
  unfold FileInfo.split
  split
  · exact calm_corrupted _
  simp only
  split
  · exact calm_corrupted _
  split
  · exact blames_ok _
  split
  · exact calm_corrupted _
  · exact blames_ok _

theorem calm_storedFile (data : Bytes) (master : MasterKey) :
    Calm (StoredFile.decode data master) :=
  (calm_parse data).bind fun header => (calm_unwrap header master).bind fun key =>
    (calm_decodeFrom key _ 0).bind fun plain => (calm_split plain).bind fun _ => blames_ok _

theorem calm_head (data : Bytes) (master : MasterKey) : Calm (Head.decode data master) :=
  (calm_parse data).bind fun header => (calm_unwrap header master).bind fun key =>
    (calm_packet _ key 0).bind fun first => (calm_split first).bind fun _ => blames_ok _

theorem calm_unlock (repository : Repository) (passphrase : String) :
    Calm (repository.unlock passphrase) := by
  unfold Repository.unlock
  split
  · exact calm_corrupted _
  simp only
  split
  · exact blames_ok _
  · exact blames_error (by simp [overflow])

end Vault

/-! ### Exchanges -/

namespace Origin.Link

variable (link : Link) (name : String) (range : Option String)

theorem calm_send (request : Request) : Calm (link.send request).1 := by
  rcases send_cases request link with ⟨response, -, sent⟩ | ⟨error, fails, sent⟩
  · rw [sent]
    exact blames_ok _
  · rw [sent]
    exact blames_error (by cases fails <;> simp [overflow])

theorem calm_objectOf (response : Response ReadFault) : Calm (objectOf response) := by
  unfold objectOf
  split
  · exact blames_ok _
  split
  · exact blames_error (by simp [overflow])
  · exact blames_error (by simp [overflow])

theorem calm_fetch : Calm (link.fetch name range).1 := by
  have sent := calm_send link (objectRequest name range)
  refine sent.bind fun response => (calm_objectOf response).bind fun body => ?_
  have any : Blames (fun _ => True) body.collect := fun _ _ => trivial
  rw [Body.collect_mapError]
  exact any.mapError fun fault _ => by cases fault <;> simp [ReadFault.toError, overflow]

theorem calm_stream : Calm (link.stream name range).1 := by
  have sent := calm_send link (objectRequest name range)
  exact sent.bind fun response => (calm_objectOf response).bind fun body => blames_ok _

end Origin.Link

/-! ### The reader -/

namespace Reader

theorem Index.calm_decode (data : Bytes) (key : MasterKey) : Calm (Index.decode data key) := by
  refine (calm_storedFile data key).bind fun file => ?_
  dsimp only
  split
  · exact calm_corrupted _
  split
  · exact calm_corrupted _
  · exact blames_ok _

theorem Index.calm_ofKey (key : MasterKey) : Calm (Index.ofKey key) := by
  unfold ofKey
  split
  · exact blames_error (by simp [overflow])
  · exact blames_ok _

theorem Index.calm_held (index : Index) (link : Link) : Calm (index.held link).1 := by
  unfold held
  split
  · exact blames_ok _
  have fetched : Calm (index.fetch link).1 := by
    have got := Link.calm_fetch link objectName none
    unfold fetch
    split
    · exact blames_ok _
    · rename_i given
      rw [given] at got
      exact blames_error (got _ rfl)
    · exact calm_decode _ _
  unfold refetch
  split
  · rename_i given
    rw [given] at fetched
    exact blames_error (fetched _ rfl)
  · exact blames_ok _

theorem Index.calm_query {α : Type} (ask : Catalog → α) (index : Index) (link : Link) :
    Calm (index.query ask link).1 := (index.calm_held link).map

variable (key : MasterKey) (fileId : String) (reader : Reader)

theorem calm_find : Calm (reader.head key fileId).1 := by
  unfold Reader.head
  split
  · exact (calm_unwrap _ key).map
  have opened := (Link.calm_fetch reader.link fileId (some headRange)).bind
    fun data => calm_head data key
  simp only
  split
  · rename_i given
    exact blames_error (opened _ given)
  · exact blames_ok _

theorem calm_facts : Calm (reader.facts key fileId).1 := (calm_find key fileId reader).map

theorem calm_readFile (range : Option ByteRange) : Calm (reader.readFile key fileId range).1 := by
  have calm := calm_find key fileId reader
  obtain ⟨error, after, failed, read⟩ | ⟨head, fileKey, after, -, ⟨_, -, -, read⟩ | ⟨-, read⟩⟩ :=
    readFile_cases reader key fileId range
  · rw [failed] at calm
    rw [read]
    exact blames_error (calm _ rfl)
  · rw [read]
    exact blames_ok _
  · rw [read]
    exact (Link.calm_stream after.link fileId _).map

theorem calm_tryPassphrase (passphrase : String) : Calm (reader.unlock passphrase).1 := by
  refine (Link.calm_fetch reader.link repositoryName none).bind fun data => Blames.bind ?_
    fun repository => calm_unlock repository passphrase
  unfold repositoryOf
  split
  · exact calm_corrupted _
  · exact blames_ok _

/-- To read a file runs over if and only if the range that is asked for does, and then nothing has
been asked of the origin. -/
theorem decrypt_eq_overflow_iff {request : Request} :
    (reader.decrypt key request).1 = .error overflow ↔
      (∃ fileId, fileId? request.path = some fileId) ∧
        requestedRange request = .error (.range .overflow) := by
  cases named : fileId? request.path with
  | none => simp [decrypt, overflow, named]
  | some fileId =>
    cases asked : requestedRange request with
    | error fault => simp [decrypt, overflow, named, asked]
    | ok range =>
      rw [decrypt_eq_readFile named asked]
      simpa using fun failed => calm_readFile key fileId reader range _ failed rfl

end Reader

/-! ### The handlers -/

namespace Gateway

/-- A step fails with an error that can be told. -/
abbrev Tellable {α : Type} (step : Except Error α) : Prop :=
  Blames (fun error => error.isPanic = false) step

variable {g : Gateway} {request : Request}

theorem isPanic_ofVault (error : Vault.Error) :
    (Error.ofVault error).isPanic = true ↔ error = overflow := by
  cases error <;> simp [Error.ofVault, Error.isPanic, overflow]

theorem isPanic_of_calm {error : Vault.Error} (calm : error ≠ overflow) :
    (Error.ofVault error).isPanic = false := by
  rw [← Bool.not_eq_true, isPanic_ofVault]
  exact calm

theorem tellable_ofVault {α : Type} {step : Except Vault.Error α} (calm : Calm step) :
    Tellable (step.mapError Error.ofVault) := calm.mapError fun _ => isPanic_of_calm

theorem tellable_plain {α : Type} {step : Except Error α} (plain : Blames IsPlain step) :
    Tellable step := plain.imp fun _ => And.right

theorem tellable_relay (g : Gateway) (request : Request) : Tellable (g.relay request).1 := by
  rw [relay_eq]
  exact tellable_ofVault (Link.calm_send _ _).map

theorem tellable_askIndex {α : Type} (answer : Catalog → α) (unlocked : Unlocked Index) :
    Tellable (g.askIndex (Index.query answer) unlocked).1 :=
  tellable_ofVault (Index.calm_query answer _ _)

theorem tellable_handleInfo (g : Gateway) (request : Request) :
    Tellable (g.handleInfo request).1 := by
  have relayed := tellable_relay g request
  unfold handleInfo
  split
  · rename_i refused
    exact blames_error (tellable_plain (plain_requireMethod request "GET") _ refused)
  rcases given : g.relay request with ⟨error | response, between⟩ <;> rw [given] at relayed
  · exact blames_error (relayed _ rfl)
  simp only
  split
  · rename_i failed
    exact blames_error (tellable_plain (plain_infoOf response) _ failed)
  split
  · exact blames_ok _
  · exact (tellable_askIndex Catalog.size _).map

theorem tellable_passphraseOf (request : Request) : Tellable (passphraseOf request) := by
  refine (tellable_plain (plain_requireMethod request "POST")).bind fun _ => ?_
  dsimp only
  split
  · exact blames_error rfl
  · exact blames_ok _

theorem calm_install (g : Gateway) (load : Nat) (key : MasterKey) (keyId : String) :
    Blames (· ≠ .vault overflow) (g.install readerEngine load key keyId).1 := by
  unfold Lifecycle.install
  split
  · exact blames_error (by simp)
  split
  · exact blames_error (by simp)
  split
  · rename_i failed
    have calm := Index.calm_ofKey key _ failed
    exact blames_error fun same => calm (Session.Error.vault.inj same)
  · exact blames_ok _

theorem calm_requestUnlock (g : Gateway) (passphrase : String) :
    Blames (· ≠ .vault overflow) (g.requestUnlock readerEngine passphrase).1 := by
  unfold Lifecycle.requestUnlock
  split
  · exact blames_error (by simp)
  unfold Lifecycle.unlock
  split
  · exact blames_error (by simp)
  have tried := calm_tryPassphrase g.engine passphrase
  have engine : readerEngine.unlock passphrase g.engine = g.engine.unlock passphrase := rfl
  rw [engine]
  rcases given : g.engine.unlock passphrase with ⟨error | unlocked, state⟩ <;> rw [given] at tried
  · exact blames_error fun same => tried error rfl (Session.Error.vault.inj same)
  · exact (calm_install _ _ _ _).map

theorem tellable_handleUnlock (g : Gateway) (request : Request) :
    Tellable (g.handleUnlock request).1 := by
  unfold handleUnlock
  split
  · rename_i refused
    exact blames_error (tellable_passphraseOf request _ refused)
  rename_i passphrase usable
  have calm := calm_requestUnlock g passphrase
  rcases given : g.requestUnlock readerEngine passphrase with ⟨error | keyId, after⟩ <;>
    rw [given] at calm
  · have other := calm error rfl
    cases error with
    | vault cause => exact blames_error (isPanic_of_calm fun same => other (congrArg _ same))
    | _ => exact blames_error rfl
  · exact blames_ok _

theorem tellable_handleTree (g : Gateway) (request : Request) :
    Tellable (g.handleTree request).1 := by
  unfold handleTree
  split
  · rename_i refused
    exact blames_error (tellable_plain (plain_ready request "/api/tree" g) _ refused)
  · simp only [Index.listFolder_absolute]
    exact (tellable_askIndex _ _).map

theorem tellable_handleMetadata (g : Gateway) (request : Request) :
    Tellable (g.handleMetadata request).1 := by
  unfold handleMetadata
  split
  · rename_i refused
    exact blames_error (tellable_plain (plain_ready request "/api/metadata/" g) _ refused)
  rename_i unlocked target ready
  obtain ⟨answer, query⟩ := askEntry_eq_query target
  have asked : Tellable (g.askIndex (askEntry target) unlocked).1 := by
    rw [query]
    exact tellable_askIndex answer unlocked
  split
  · rename_i failed
    rw [failed] at asked
    exact blames_error (asked _ rfl)
  split
  · exact blames_error rfl
  · exact tellable_ofVault (calm_facts _ _ _).map.map

theorem tellable_handleOriginUnlock (g : Gateway) (request : Request) :
    Tellable (g.handleOriginUnlock request).1 := by
  have relayed := tellable_relay g request
  unfold handleOriginUnlock
  rcases given : g.relay request with ⟨error | response, after⟩ <;> rw [given] at relayed
  · exact blames_error (relayed _ rfl)
  · exact blames_ok _

theorem tellable_handle {route : Route} (g : Gateway) (request : Request) (other : route ≠ .file) :
    Tellable (g.handle route request).1 := by
  cases route with
  | info => exact tellable_handleInfo g request
  | unlock => exact tellable_handleUnlock g request
  | tree => exact tellable_handleTree g request
  | metadata => exact tellable_handleMetadata g request
  | file => exact absurd rfl other
  | originUnlock => exact tellable_handleOriginUnlock g request

/-! ### Requests without an answer -/

/-- A file is asked for, of an unlocked repository, in the one range whose length runs over. -/
structure RunsOver (g : Gateway) (request : Request) : Prop where
  routed : route? g.snapshot.isEnabled request.path = some .file
  method : request.method = "GET"
  unlocked : g.snapshot.unlocked?.isSome
  named : (fileId? request.path).isSome
  range : ∃ value, request.headers.get? "range" = some value ∧ value.all isTextByte ∧
    ByteRange.IsBetween 0 ByteRange.farthest (Text.trim (value.map fun b => Char.ofNat b.toNat))

theorem requestedRange_eq_overflow_iff :
    requestedRange request = .error (.range .overflow) ↔ ∃ value,
      request.headers.get? "range" = some value ∧ value.all isTextByte ∧
      ByteRange.IsBetween 0 ByteRange.farthest
        (Text.trim (value.map fun b => Char.ofNat b.toNat)) := by
  unfold requestedRange
  cases request.headers.get? "range" with
  | none => simp
  | some value =>
    have told {read : Except ByteRange.Error (Option ByteRange)} :
        read.mapError RangeFault.range = .error (.range .overflow) ↔ read = .error .overflow := by
      cases read <;> simp [Except.mapError]
    cases shown : value.all isTextByte with
    | false =>
      simp only [shown, Bool.false_eq_true, if_false, Option.some.injEq, exists_eq_left', false_and,
        iff_false]
      simp
    | true =>
      simp only [if_true, told, Option.some.injEq, exists_eq_left', shown, true_and]
      exact (ByteRange.parseChars_eq_iff (by simp)).trans ByteRange.asks_overflow_iff

theorem decrypt_of_overflow {reader : Reader} {key : MasterKey}
    (failed : (reader.decrypt key request).1 = .error overflow) :
    reader.decrypt key request = (.error overflow, reader) := by
  obtain ⟨⟨fileId, named⟩, asked⟩ := (decrypt_eq_overflow_iff key reader).1 failed
  simp only [decrypt, named, asked]
  rfl

/-- The handler for files fails with a panic if and only if the range of a file runs over, and then
the state stays as it is. -/
theorem handleFile_panics_iff :
    (∃ error, (g.handleFile request).1 = .error error ∧ error.isPanic = true) ↔
      request.method = "GET" ∧ g.snapshot.unlocked?.isSome ∧ (fileId? request.path).isSome ∧
        requestedRange request = .error (.range .overflow) := by
  constructor
  · rintro ⟨error, failed, panics⟩
    cases required : g.requireUnlocked request with
    | error refusal =>
      rw [handleFile, required] at failed
      obtain rfl := Except.error.inj failed
      have calm := tellable_plain (plain_requireUnlocked request g) _ required
      rw [calm] at panics
      cases panics
    | ok unlocked =>
      obtain ⟨method, known⟩ := requireUnlocked_eq_ok_iff.1 required
      cases read : (g.engine.decrypt unlocked.key request).1 with
      | ok response => simp only [handleFile, required, read] at failed; cases failed
      | error cause =>
        simp only [handleFile, required, read] at failed
        obtain rfl := Except.error.inj failed
        obtain rfl := (isPanic_ofVault cause).1 panics
        obtain ⟨⟨fileId, named⟩, asked⟩ := (decrypt_eq_overflow_iff _ _).1 read
        exact ⟨method, by rw [known]; rfl, by rw [named]; rfl, asked⟩
  · rintro ⟨method, unlocked, named, asked⟩
    obtain ⟨unlocked, known⟩ := Option.isSome_iff_exists.1 unlocked
    have required := requireUnlocked_eq_ok_iff.2 ⟨method, known⟩
    have failed := (decrypt_eq_overflow_iff unlocked.key g.engine).2
      ⟨Option.isSome_iff_exists.1 named, asked⟩
    refine ⟨.ofVault overflow, ?_, (isPanic_ofVault _).2 rfl⟩
    simp only [handleFile, required, failed]
    rfl

theorem panics_iff : g.panics request = true ↔ g.RunsOver request := by
  rcases routed : route? g.snapshot.isEnabled request.path with _ | route
  · have quiet : g.panics request = false := by simp only [panics, routed]
    rw [quiet]
    exact iff_of_false (by simp) fun runs => by simpa [routed] using runs.routed
  have handled : g.panics request = true ↔
      ∃ error, (g.handle route request).1 = .error error ∧ error.isPanic = true := by
    simp only [panics, routed]
    cases (g.handle route request).1 with
    | ok response => simp
    | error error => simp
  rw [handled]
  by_cases file : route = .file
  · subst file
    rw [handle, handleFile_panics_iff, requestedRange_eq_overflow_iff]
    constructor
    · rintro ⟨method, unlocked, named, range⟩
      exact ⟨routed, method, unlocked, named, range⟩
    · intro runs
      exact ⟨runs.method, runs.unlocked, runs.named, runs.range⟩
  · refine iff_of_false ?_ fun runs => file (Option.some.inj (routed.symm.trans runs.routed))
    rintro ⟨error, failed, panics⟩
    rw [tellable_handle g request file error failed] at panics
    cases panics

/-- While the range runs over nothing is asked of the origin, and nothing changes. -/
theorem RunsOver.state (runs : g.RunsOver request) : (g.serve request).2 = g := by
  obtain ⟨unlocked, known⟩ := Option.isSome_iff_exists.1 runs.unlocked
  have required := requireUnlocked_eq_ok_iff.2 ⟨runs.method, known⟩
  have failed := (decrypt_eq_overflow_iff unlocked.key g.engine).2
    ⟨Option.isSome_iff_exists.1 runs.named, requestedRange_eq_overflow_iff.2 runs.range⟩
  rw [serve_of_route runs.routed, handle, handleFile, required]
  simp only [decrypt_of_overflow failed]

/-- Every request is answered, and as it is served, unless the length of its range runs over; then
there is no answer, and the state stays as it is. -/
theorem answered_unless_range_runs_over (g : Gateway) (request : Request) :
    ((g.answer request).1 = none ↔ g.RunsOver request) ∧
      (g.RunsOver request → (g.answer request).2 = g) ∧
      (¬ g.RunsOver request →
        g.answer request = (some (g.serve request).1, (g.serve request).2)) := by
  have spelled : g.answer request =
      (if g.panics request then none else some (g.serve request).1, (g.serve request).2) := rfl
  refine ⟨?_, fun runs => by rw [spelled]; exact runs.state, fun answered => ?_⟩
  · rw [spelled, ← panics_iff]
    cases g.panics request <;> simp
  · have calm : g.panics request = false := by rwa [← Bool.not_eq_true, panics_iff]
    rw [spelled, calm]
    rfl

end Gateway

end SealGate
