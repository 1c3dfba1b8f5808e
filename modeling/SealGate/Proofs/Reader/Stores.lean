import SealGate.Proofs.Origin.Exchange
import SealGate.Proofs.Reader.Reading
import SealGate.Proofs.Reader.Recent
import SealGate.Proofs.Vault.Sealed

/-! Readers of an object that opens. The origin serves the object under its file id, and if the
cache holds a head for the id, it is that of the object. A new reader of such an origin is of this
kind, and it stays so whatever files are asked for with the master key; so the head of the object is
found with no more than one request, for its first bytes, which are enough for it. -/

namespace SealGate

open Http Vault Origin Reader

namespace Origin.Link

/-- An object is served on whatever else is asked for. -/
theorem Serves.of_grows {link later : Link} {name : String} {object : Bytes}
    (serves : link.Serves name object) (grows : link.Grows later) : later.Serves name object := by
  constructor
  · rw [grows.reply]
    exact serves.closed
  · rw [grows.reply]
    exact serves.tail

end Origin.Link

namespace Reader

/-- The origin serves an object under a file id, and the cache holds no other head for it. -/
structure Stores (reader : Reader) (fileId : String) (object : Bytes) (head : Head) : Prop where
  served : reader.link.Serves fileId object
  cached : ∀ held, reader.heads.lookup? fileId = some held → held = head

/-- The request for the start of an object. -/
def peek (fileId : String) : Request := Link.objectRequest fileId (some headRange)

/-- The requests that are sent to find a head: one if it is not in the cache. -/
def peeks (reader : Reader) (fileId : String) : List Request :=
  if (reader.heads.lookup? fileId).isSome then [] else [peek fileId]

theorem headRange_eq : headRange = closedRange 0 (storedPacketSize + Header.maxLength) := by
  have zero : Text.Decimal.render 0 = "0" := by
    rw [Text.Decimal.render, Text.Decimal.digits, if_pos (by decide)]
    rfl
  rw [headRange, closedRange, zero]
  rfl

/-- The first 65825 bytes, which the range for a head names, are enough to open the head of any
object: what they give, be it an error, is what the whole object gives; and of an object that opens
as a whole it is the header, the metadata and their length. -/
theorem headRange_suffices (object : Bytes) (master : MasterKey) :
    headRange = closedRange 0 (65825 - 1) ∧
      Head.decode (object.take 65825) master = Head.decode object master ∧
      ∀ file, StoredFile.decode object master = .ok file →
        ∃ fileKey, file.header.unwrap master = .ok fileKey ∧
          Head.decode (object.take 65825) master =
            .ok (⟨file.header, file.info, file.infoLength⟩, fileKey) := by
  have enough : Header.maxLength + storedPacketSize ≤ 65825 := by decide
  refine ⟨headRange_eq, Head.decode_take object master enough, ?_⟩
  intro file opens
  obtain ⟨fileKey, _, -, unwrapped, -⟩ := StoredFile.decode_ok_iff.1 opens
  exact ⟨fileKey, unwrapped, StoredFile.decode_head 65825 enough opens unwrapped⟩

/-- A file whose content ends in its second packet. -/
def sample : Sealing where
  master := ⟨List.replicate 32 5, rfl⟩
  key := ⟨List.replicate 32 6, rfl⟩
  nonce := List.replicate 12 3
  random _ := List.replicate 8 4
  info := ⟨"", "", 65540⟩
  content := List.replicate 65540 7

theorem length_sample : sample.content.length = 65540 := List.length_replicate

theorem fits_sample : sample.Fits :=
  .of_short rfl (fun _ => rfl) (by decide +kernel) (by rw [length_sample]; decide)

/-- An object that opens is longer than the content in it. -/
theorem length_content_le {object : Bytes} {master : MasterKey} {file : StoredFile}
    (opens : StoredFile.decode object master = .ok file) : file.content.length ≤ object.length := by
  obtain ⟨key, plain, -, -, opened, -, content⟩ := StoredFile.decode_ok_iff.1 opens
  have sizes := Packet.length_of_decodeAll opened
  rw [List.length_drop] at sizes
  rw [← content, List.length_drop]
  omega

/-- Of a file that is longer than its head the first bytes are enough. -/
theorem headRange_suffices_of_longer :
    let longer : Sealing := { sample with content := List.replicate 70000 7 }
    65825 < longer.object.length ∧
      StoredFile.decode longer.object ⟨sample.master.bytes⟩ = .ok longer.file ∧
      ∃ fileKey, longer.file.header.unwrap ⟨sample.master.bytes⟩ = .ok fileKey ∧
        Head.decode (longer.object.take 65825) ⟨sample.master.bytes⟩ =
          .ok (⟨longer.file.header, sample.info, longer.file.infoLength⟩, fileKey) := by
  intro longer
  have length : longer.content.length = 70000 := List.length_replicate
  have fits : longer.Fits :=
    .of_short rfl (fun _ => rfl) (by decide +kernel) (by rw [length]; decide)
  have opens := Sealing.decode_object fits
  have least : longer.content.length ≤ longer.object.length := length_content_le opens
  obtain ⟨-, -, found⟩ := headRange_suffices longer.object ⟨sample.master.bytes⟩
  exact ⟨by omega, opens, found longer.file opens⟩

section Served

variable {link : Link} {reader : Reader} {master : MasterKey} {fileId : String} {object : Bytes}
  {file : StoredFile}

theorem Stores.ofLink {head : Head} (served : link.Serves fileId object) :
    (ofLink link).Stores fileId object head := by
  refine ⟨served, fun held found => ?_⟩
  cases found

/-- The head is found, and with it the key of the file. -/
theorem Stores.head_eq (stores : reader.Stores fileId object file.head)
    (opens : StoredFile.decode object master = .ok file) {key : Cipher.Key}
    (unwrapped : file.header.unwrap master = .ok key) :
    ∃ after, reader.head master fileId = (.ok (file.head, key), after) ∧
      after.Stores fileId object file.head ∧
      after.link.sent = reader.link.sent ++ reader.peeks fileId := by
  have opened := StoredFile.decode_head (storedPacketSize + Header.maxLength + 1) (by omega) opens
    unwrapped
  have first := reader.heads.get_fst fileId
  have others := reader.heads.lookup?_get fileId fileId
  rw [Reader.head, peeks]
  rcases found : reader.heads.get fileId with ⟨held | held, moved⟩
  · rw [found] at first
    have inside : 0 < object.length := by
      obtain ⟨_, _, parsed, -⟩ := StoredFile.decode_ok_iff.1 opens
      have bounds := Header.of_parse parsed
      omega
    have fetched := stores.served.fetch_closed 0 (storedPacketSize + Header.maxLength) inside
      (Nat.zero_le _)
    rw [← headRange_eq, Nat.sub_zero, List.drop_zero] at fetched
    refine ⟨⟨reader.link.after (peek fileId), reader.heads.put fileId file.head⟩, ?_,
      ⟨stores.served.after _, ?_⟩, ?_⟩
    · simp only [fetched, Except.bind, opened]
      rfl
    · intro held put
      rcases reader.heads.lookup?_of_put put with ⟨-, same⟩ | ⟨different, -⟩
      · exact same
      · exact absurd rfl different
    · rw [← first]
      rfl
  · rw [found] at first others
    have same := stores.cached held first.symm
    subst same
    have own : file.head.header.unwrap master = .ok key := unwrapped
    refine ⟨{ reader with heads := moved }, ?_, ⟨stores.served, ?_⟩, ?_⟩
    · simp only [own]
      rfl
    · intro other again
      rw [others] at again
      exact stores.cached other again
    · rw [← first]
      simp

/-! ### A step of the reader -/

/-- Looking for any head with the master key leaves the object stored. -/
theorem Stores.head (stores : reader.Stores fileId object file.head)
    (opens : StoredFile.decode object master = .ok file) (other : String) :
    (reader.head master other).2.Stores fileId object file.head := by
  by_cases same : other = fileId
  · obtain ⟨key, _, -, unwrapped, -⟩ := StoredFile.decode_ok_iff.1 opens
    obtain ⟨after, found, still, -⟩ := stores.head_eq opens unwrapped
    rw [same, found]
    exact still
  rw [Reader.head]
  have others := reader.heads.lookup?_get other fileId
  rcases found : reader.heads.get other with ⟨held | held, moved⟩
  · have served := stores.served.of_grows (Link.fetch_grows other (some headRange) reader.link)
    rcases fetched : reader.link.fetch other (some headRange) with ⟨data, link⟩
    rw [fetched] at served
    simp only
    cases data.bind fun data => Head.decode data master with
    | error error => exact ⟨served, stores.cached⟩
    | ok pair =>
      refine ⟨served, fun held put => ?_⟩
      rcases reader.heads.lookup?_of_put put with ⟨here, -⟩ | ⟨-, before⟩
      · exact absurd here.symm same
      · exact stores.cached held before
  · rw [found] at others
    refine ⟨stores.served, fun held again => ?_⟩
    rw [others] at again
    exact stores.cached held again

theorem Stores.stream {head : Head} (stores : reader.Stores fileId object head) (name : String)
    (range : Option String) :
    Stores { reader with link := (reader.link.stream name range).2 } fileId object head :=
  ⟨stores.served.of_grows (Link.stream_grows name range reader.link), stores.cached⟩

theorem Stores.readFile (stores : reader.Stores fileId object file.head)
    (opens : StoredFile.decode object master = .ok file) (other : String)
    (range : Option ByteRange) :
    (reader.readFile master other range).2.Stores fileId object file.head := by
  have still := stores.head opens other
  obtain same | ⟨head, key, after, found, read⟩ := readFile_snd reader master other range
  · rw [same]
    exact still
  · rw [found] at still
    rw [read]
    exact still.stream _ _

/-- A request for any file with the master key leaves the object stored. -/
theorem Stores.decrypt (stores : reader.Stores fileId object file.head)
    (opens : StoredFile.decode object master = .ok file) (request : Request) :
    (reader.decrypt master request).2.Stores fileId object file.head := by
  obtain ⟨fault, failed⟩ | ⟨other, range, -, -, read⟩ := decrypt_cases reader master request
  · rw [failed]
    exact stores
  · rw [read]
    exact stores.readFile opens other range

/-- The reader when requests have been answered one after the other. -/
def afterAll (master : MasterKey) (requests : List Request) (reader : Reader) : Reader :=
  requests.foldl (fun reader request => (reader.decrypt master request).2) reader

/-- However many files have been asked for, the object is still stored. -/
theorem Stores.afterAll (stores : reader.Stores fileId object file.head)
    (opens : StoredFile.decode object master = .ok file) (requests : List Request) :
    (reader.afterAll master requests).Stores fileId object file.head := by
  induction requests generalizing reader with
  | nil => exact stores
  | cons request requests ih => exact ih (stores.decrypt opens request)

end Served

end Reader

end SealGate
