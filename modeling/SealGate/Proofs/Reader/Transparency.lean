import SealGate.Proofs.Reader.Answers
import SealGate.Proofs.Reader.Gathering

/-! The cache of heads shows in no answer. Over an origin that answers each request always in the
same way, every head in the cache was opened from what the origin would give again; so a head that
is found there is the one that would be opened anew, and a key that does not unwrap it fails in the
same way. This needs that a wrapped key does not give two file keys under two of the master keys. -/

namespace SealGate

open Http Vault Origin Reader

namespace Origin.Link

variable {link later : Link}

/-- Each request is always answered in the same way, whatever was received before. -/
def IsSteady (link : Link) : Prop :=
  ∀ received request, link.answer received request = link.answer [] request

theorem IsSteady.answer (steady : link.IsSteady) (grows : link.Grows later)
    (received others : List Request) (request : Request) :
    later.answer received request = link.answer others request := by
  rw [grows.answer, steady received, steady others]

theorem IsSteady.of_grows (steady : link.IsSteady) (grows : link.Grows later) : later.IsSteady := by
  intro received request
  rw [grows.answer]
  exact steady received request

theorem IsSteady.send (steady : link.IsSteady) (grows : link.Grows later) (request : Request) :
    (later.send request).1 = (link.send request).1 := by
  simp only [Link.send, grows.base]
  cases locate link.base request with
  | error cause => rfl
  | ok url =>
    have same := steady.answer grows later.received link.received (arriving url request)
    simp only [same]
    cases link.answer link.received (arriving url request) <;> rfl

theorem IsSteady.reply (steady : link.IsSteady) (sent : List Request) (request : Request) :
    link.reply sent request = link.reply link.sent request := by
  unfold Link.reply
  congr 1
  funext url
  rw [steady, steady (link.sent.map link.arrival)]

theorem IsSteady.fetch (steady : link.IsSteady) (grows : link.Grows later) (name : String)
    (range : Option String) : (later.fetch name range).1 = (link.fetch name range).1 := by
  simp only [Link.fetch, steady.send grows]

theorem IsSteady.stream (steady : link.IsSteady) (grows : link.Grows later) (name : String)
    (range : Option String) : (later.stream name range).1 = (link.stream name range).1 := by
  simp only [Link.stream, steady.send grows]

theorem isSteady_holding (object : Bytes) : (holding object).IsSteady := fun _ _ => rfl

/-- An answer that holds an object is what fetching gives. -/
theorem fetch_of_holds {name : String} {range : Option String} {response : Response ReadFault}
    {data : Bytes}
    (answered : link.reply link.sent (objectRequest name range) = .ok (.response response))
    (holds : Holds response data) : (link.fetch name range).1 = .ok data := by
  rw [fetch_of_good answered holds.1, holds.2]
  rfl

end Origin.Link

namespace Vault.Head

/-- The head of an object is the same under every key that gives the same file key, and a key that
does not unwrap it gives none. -/
theorem decode_again {data : Bytes} {one other : MasterKey} {head : Head} {fileKey : Cipher.Key}
    (opened : decode data one = .ok (head, fileKey))
    (same : ∀ second, head.header.unwrap other = .ok second → second = fileKey) :
    decode data other = (head.header.unwrap other).map fun fileKey => (head, fileKey) := by
  obtain ⟨parsed, -, first, packet, split⟩ := decode_ok_iff.1 opened
  cases unwrapped : head.header.unwrap other with
  | error error => simp only [decode, parsed, bind, Except.bind, unwrapped, Except.map]
  | ok second =>
    obtain rfl := same second unwrapped
    exact decode_ok_iff.2 ⟨parsed, unwrapped, first, packet, split⟩

end Vault.Head

namespace Reader

/-! ### The head -/

section Head

variable {reader : Reader} {fileId : String}

theorem head_of_missing (key : MasterKey) (missing : reader.heads.lookup? fileId = none) :
    (reader.head key fileId).1 =
      (reader.link.fetch fileId (some headRange)).1.bind fun data => Head.decode data key := by
  have first := reader.heads.get_fst fileId
  rw [missing] at first
  rw [Reader.head]
  rcases found : reader.heads.get fileId with ⟨held | held, moved⟩
  · simp only
    rcases reader.link.fetch fileId (some headRange) with ⟨data, link⟩
    simp only
    cases data.bind fun data => Head.decode data key <;> rfl
  · rw [found] at first
    cases first

theorem head_of_cached (key : MasterKey) {head : Head}
    (held : reader.heads.lookup? fileId = some head) :
    (reader.head key fileId).1 =
      (head.header.unwrap key).map fun fileKey => (head, fileKey) := by
  have first := reader.heads.get_fst fileId
  rw [held] at first
  rw [Reader.head]
  rcases found : reader.heads.get fileId with ⟨other | other, moved⟩ <;> rw [found] at first
  · cases first
  · obtain rfl := Option.some.inj first
    rfl

/-- Two readers of a steady origin find the same head, if their caches hold the same for it. -/
theorem head_of_lookup {later : Reader} (key : MasterKey) (steady : reader.link.IsSteady)
    (grows : reader.link.Grows later.link)
    (same : later.heads.lookup? fileId = reader.heads.lookup? fileId) :
    (later.head key fileId).1 = (reader.head key fileId).1 := by
  cases held : reader.heads.lookup? fileId with
  | some head => rw [head_of_cached key held, head_of_cached key (same.trans held)]
  | none =>
    rw [head_of_missing key held, head_of_missing key (same.trans held), steady.fetch grows]

/-- To look for a head changes nothing of what the cache holds for it, unless it is put there. -/
theorem lookup?_head (key : MasterKey) :
    (reader.head key fileId).2.heads.lookup? fileId = reader.heads.lookup? fileId ∨
      ∃ head fileKey, (reader.head key fileId).1 = .ok (head, fileKey) ∧
        head.header.unwrap key = .ok fileKey ∧
        (reader.head key fileId).2.heads.lookup? fileId = some head := by
  rcases looked : reader.heads.get fileId with ⟨held | held, moved⟩
  · rcases fetched : reader.link.fetch fileId (some headRange) with ⟨data, link⟩
    cases opened : data.bind fun data => Head.decode data key with
    | error error =>
      left
      simp only [Reader.head, looked, fetched, opened]
    | ok pair =>
      obtain ⟨head, fileKey⟩ := pair
      obtain ⟨data, -, decoded⟩ := Outcome.bind_eq_ok.1 opened
      obtain ⟨-, unwrapped, -⟩ := Head.decode_ok_iff.1 decoded
      simp only [Reader.head, looked, fetched, opened]
      cases kept : (reader.heads.put fileId head).lookup? fileId with
      | none =>
        -- a cache without room
        have missing := reader.heads.get_fst fileId
        rw [looked] at missing
        exact .inl missing
      | some again =>
        rcases reader.heads.lookup?_of_put kept with ⟨-, rfl⟩ | ⟨other, -⟩
        · exact .inr ⟨again, fileKey, rfl, unwrapped, rfl⟩
        · exact absurd rfl other
  · left
    have same := reader.heads.lookup?_get fileId fileId
    rw [looked] at same
    simpa only [Reader.head, looked] using same

/-- Who looks for a head again finds the same, whether it has come into the cache or not. -/
theorem head_again (key : MasterKey) (steady : reader.link.IsSteady) :
    ((reader.head key fileId).2.head key fileId).1 = (reader.head key fileId).1 := by
  rcases lookup?_head key with same | ⟨head, fileKey, found, unwrapped, held⟩
  · exact head_of_lookup key steady (head_gathers key fileId reader).grows same
  · rw [head_of_cached key held, unwrapped, found]
    rfl

theorem facts_of_lookup {later : Reader} (key : MasterKey) (steady : reader.link.IsSteady)
    (grows : reader.link.Grows later.link)
    (same : later.heads.lookup? fileId = reader.heads.lookup? fileId) :
    (later.facts key fileId).1 = (reader.facts key fileId).1 := by
  simp only [Reader.facts, head_of_lookup key steady grows same]

theorem facts_again (key : MasterKey) (steady : reader.link.IsSteady) :
    ((reader.facts key fileId).2.facts key fileId).1 = (reader.facts key fileId).1 := by
  simp only [Reader.facts, head_again key steady]

end Head

/-- No wrapped key at the start of an object gives two file keys under two of the master keys. -/
def Unambiguous (link : Link) (keys : List MasterKey) : Prop :=
  ∀ fileId data header, (link.fetch fileId (some headRange)).1 = .ok data →
    Header.parse data = .ok header → ∀ one ∈ keys, ∀ other ∈ keys, ∀ first second,
      header.unwrap one = .ok first → header.unwrap other = .ok second → second = first

/-- The reader of a steady origin, whose cached heads were all opened with one of the keys. -/
structure Caches (link : Link) (keys : List MasterKey) (reader : Reader) : Prop where
  grows : link.Grows reader.link
  heads : ∀ entry ∈ reader.heads.entries, ∃ key ∈ keys,
    Peeked link reader.link key entry.1 entry.2

section Caches

variable {link : Link} {keys : List MasterKey} {reader after : Reader} {key : MasterKey}

theorem Caches.ofLink (link : Link) (keys : List MasterKey) : Caches link keys (ofLink link) where
  grows := .refl link
  heads := by
    intro entry mem
    cases mem

theorem Caches.gathers (caches : Caches link keys reader) (mem : key ∈ keys)
    (gathers : Gathers key reader after) : Caches link keys after where
  grows := caches.grows.trans gathers.grows
  heads := by
    intro entry held
    rcases gathers.heads entry held with before | peeked
    · obtain ⟨own, among, peeked⟩ := caches.heads entry before
      exact ⟨own, among, peeked.widen (.refl link) gathers.grows⟩
    · exact ⟨key, mem, peeked.widen caches.grows (.refl after.link)⟩

theorem Caches.forget (caches : Caches link keys reader) : Caches link keys reader.forget where
  grows := caches.grows
  heads := by
    intro entry mem
    cases mem

/-- What was peeked at is what the origin gives. -/
theorem Peeked.fetch {later : Link} {fileId : String} {head : Head} (steady : link.IsSteady)
    (peeked : Peeked link later key fileId head) :
    ∃ data fileKey, (link.fetch fileId (some headRange)).1 = .ok data ∧
      Head.decode data key = .ok (head, fileKey) := by
  obtain ⟨response, data, fileKey, ⟨sent, -, -, answered⟩, holds, opened⟩ := peeked
  refine ⟨data, fileKey, Link.fetch_of_holds ?_ holds, opened⟩
  rwa [steady.reply sent] at answered

/-- The head that is found in the cache is the one that a new reader opens. -/
theorem Caches.head (caches : Caches link keys reader) (steady : link.IsSteady)
    (unambiguous : Unambiguous link keys) (mem : key ∈ keys) (fileId : String) :
    (reader.head key fileId).1 = ((Reader.ofLink link).head key fileId).1 := by
  have fresh : ((Reader.ofLink link).head key fileId).1 =
      (link.fetch fileId (some headRange)).1.bind fun data => Head.decode data key :=
    head_of_missing key rfl
  rw [fresh]
  cases found : reader.heads.lookup? fileId with
  | none => rw [head_of_missing key found, steady.fetch caches.grows]
  | some head =>
    have held := List.mem_of_find?_eq_some (reader.heads.lookup?_eq_some found)
    obtain ⟨own, among, peeked⟩ := caches.heads _ held
    obtain ⟨data, fileKey, fetched, opened⟩ := peeked.fetch steady
    obtain ⟨parsed, unwrapped, -⟩ := Head.decode_ok_iff.1 opened
    have same := unambiguous fileId data head.header fetched parsed own among key mem fileKey
    have again := Head.decode_again opened fun second => same second unwrapped
    rw [head_of_cached key found, fetched, ← again]
    rfl

/-- A new reader finds the same, and both are still readers of the same origin. -/
theorem Caches.head_cases (caches : Caches link keys reader) (steady : link.IsSteady)
    (unambiguous : Unambiguous link keys) (mem : key ∈ keys) (fileId : String) :
    ∃ result after fresh, reader.head key fileId = (result, after) ∧
      (Reader.ofLink link).head key fileId = (result, fresh) ∧
      link.Grows after.link ∧ link.Grows fresh.link := by
  have same := caches.head steady unambiguous mem fileId
  have grows := (caches.gathers mem (head_gathers key fileId reader)).grows
  have anew := (head_gathers key fileId (Reader.ofLink link)).grows
  refine ⟨(reader.head key fileId).1, (reader.head key fileId).2, _, rfl, ?_, grows, anew⟩
  exact Prod.ext same.symm rfl

end Caches

/-! ### Answers -/

inductive Call
  | decrypt (key : MasterKey) (request : Request)
  | facts (key : MasterKey) (fileId : String)
  | forget

/-- The master key that a call is given. -/
def Call.key? : Call → Option MasterKey
  | .decrypt key _ | .facts key _ => some key
  | .forget => none

inductive Reply
  | response (result : Except Vault.Error (Response Vault.Error))
  | facts (result : Except Vault.Error FileFacts)
  | done

def perform (reader : Reader) : Call → Reply × Reader
  | .decrypt key request =>
    (.response (reader.decrypt key request).1, (reader.decrypt key request).2)
  | .facts key fileId => (.facts (reader.facts key fileId).1, (reader.facts key fileId).2)
  | .forget => (.done, reader.forget)

/-- The replies to calls that are made one after the other. -/
def replies : Reader → List Call → List Reply
  | _, [] => []
  | reader, call :: rest => (reader.perform call).1 :: (reader.perform call).2.replies rest

section Answers

variable {link : Link} {keys : List MasterKey} {reader : Reader} {key : MasterKey}

theorem Caches.readFile (caches : Caches link keys reader) (steady : link.IsSteady)
    (unambiguous : Unambiguous link keys) (mem : key ∈ keys) (fileId : String)
    (range : Option ByteRange) : (reader.readFile key fileId range).1 =
      ((Reader.ofLink link).readFile key fileId range).1 := by
  obtain ⟨error | ⟨head, fileKey⟩, after, fresh, found, anew, grows, grown⟩ :=
    caches.head_cases steady unambiguous mem fileId
  · rw [readFile_of_unfound found, readFile_of_unfound anew]
  by_cases content : HasContent head range
  · rw [readFile_of_found found content, readFile_of_found anew content, steady.stream grows,
      steady.stream grown]
  · obtain ⟨asked, rfl, refused⟩ := not_hasContent content
    rw [readFile_of_refused found refused, readFile_of_refused anew refused]

theorem Caches.decrypt (caches : Caches link keys reader) (steady : link.IsSteady)
    (unambiguous : Unambiguous link keys) (mem : key ∈ keys) (request : Request) :
    (reader.decrypt key request).1 = ((Reader.ofLink link).decrypt key request).1 := by
  cases named : fileId? request.path with
  | none => simp only [Reader.decrypt, named]
  | some fileId =>
    cases asked : requestedRange request with
    | error fault => simp only [Reader.decrypt, named, asked]
    | ok range =>
      rw [decrypt_eq_readFile named asked, decrypt_eq_readFile named asked]
      exact caches.readFile steady unambiguous mem fileId range

theorem Caches.facts (caches : Caches link keys reader) (steady : link.IsSteady)
    (unambiguous : Unambiguous link keys) (mem : key ∈ keys) (fileId : String) :
    (reader.facts key fileId).1 = ((Reader.ofLink link).facts key fileId).1 := by
  unfold Reader.facts
  simp only [caches.head steady unambiguous mem fileId]

/-- A call with one of the keys is answered as by a new reader. -/
theorem Caches.perform (caches : Caches link keys reader) (steady : link.IsSteady)
    (unambiguous : Unambiguous link keys) {call : Call}
    (among : ∀ key, call.key? = some key → key ∈ keys) :
    (reader.perform call).1 = ((Reader.ofLink link).perform call).1 ∧
      Caches link keys (reader.perform call).2 := by
  cases call with
  | decrypt key request =>
    have mem := among key rfl
    refine ⟨?_, caches.gathers mem (decrypt_gathers key reader request)⟩
    exact congrArg Reply.response (caches.decrypt steady unambiguous mem request)
  | facts key fileId =>
    have mem := among key rfl
    refine ⟨?_, caches.gathers mem (facts_gathers key fileId reader)⟩
    exact congrArg Reply.facts (caches.facts steady unambiguous mem fileId)
  | forget => exact ⟨rfl, caches.forget⟩

theorem Caches.replies (caches : Caches link keys reader) (steady : link.IsSteady)
    (unambiguous : Unambiguous link keys) {calls : List Call}
    (among : ∀ call ∈ calls, ∀ key, call.key? = some key → key ∈ keys) :
    reader.replies calls = calls.map fun call => ((Reader.ofLink link).perform call).1 := by
  induction calls generalizing reader with
  | nil => rfl
  | cons call calls ih =>
    obtain ⟨first, others⟩ := List.forall_mem_cons.1 among
    obtain ⟨same, still⟩ := caches.perform steady unambiguous first
    rw [Reader.replies, same, ih still others, List.map_cons]

/-- Each call on one reader is answered as by a new reader, in whatever order files are read and
heads forgotten and with whatever keys, if the origin answers each request always in the same way
and no wrapped key of it gives two file keys under two of the keys. -/
theorem replies_eq_fresh (steady : link.IsSteady) (calls : List Call)
    (unambiguous : Unambiguous link (calls.filterMap Call.key?)) :
    (ofLink link).replies calls = calls.map fun call => ((ofLink link).perform call).1 := by
  refine (Caches.ofLink link _).replies steady unambiguous ?_
  intro call mem key given
  exact List.mem_filterMap.2 ⟨call, mem, given⟩

/-- Reads of one file with its master key, with a key that is too short, and after forgetting. -/
def sampleCalls : List Call :=
  [.facts ⟨sample.master.bytes⟩ sampleId, .decrypt ⟨[1]⟩ (sampleRequest []),
    .decrypt ⟨sample.master.bytes⟩ (sampleRequest []), .forget,
    .decrypt ⟨sample.master.bytes⟩ (sampleRequest [])]

theorem unambiguous_sampleCalls :
    Unambiguous (Link.holding sample.object) (sampleCalls.filterMap Call.key?) := by
  intro fileId data header fetched parsed one own other among first second unwrapped again
  have usable {key : MasterKey} {fileKey : Cipher.Key}
      (mem : key ∈ sampleCalls.filterMap Call.key?) (opened : header.unwrap key = .ok fileKey) :
      key = ⟨sample.master.bytes⟩ := by
    have keys : sampleCalls.filterMap Call.key? = [⟨sample.master.bytes⟩, ⟨[1]⟩,
      ⟨sample.master.bytes⟩, ⟨sample.master.bytes⟩] := rfl
    simp only [keys, List.mem_cons, List.not_mem_nil, or_false] at mem
    rcases mem with own | short | own | own
    · exact own
    · rw [short] at opened
      cases opened
    · exact own
    · exact own
  rw [usable own unwrapped] at unwrapped
  rw [usable among again, unwrapped] at again
  exact (Except.ok.inj again).symm

theorem replies_eq_fresh_of_sample :
    (Link.holding sample.object).IsSteady ∧
      Unambiguous (Link.holding sample.object) (sampleCalls.filterMap Call.key?) ∧
      (ofLink (Link.holding sample.object)).replies sampleCalls =
        sampleCalls.map fun call => ((ofLink (Link.holding sample.object)).perform call).1 :=
  ⟨Link.isSteady_holding _, unambiguous_sampleCalls,
    replies_eq_fresh (Link.isSteady_holding _) sampleCalls unambiguous_sampleCalls⟩

end Answers

end Reader

end SealGate
