import SealGate.Proofs.Bytes.Text
import SealGate.Proofs.Http.ByteRange
import SealGate.Proofs.Reader.Declared

/-! Files whose metadata declare another size than they have, or none. The whole file and the facts
about it take the size 0 for unknown; a range takes it as it stands, as the end of the file. So the
rest of a file from a place within it is answered right if and only if the size is declared and
right, and a file without a declared size, which is handed out as a whole, has no range at all. -/

namespace SealGate.Reader

open Http Vault Origin

/-- A body of declared length that was read to its end has that length. -/
theorem length_of_delivers {ε : Type} {body : Body ε} {count : Nat} {bytes : Bytes}
    (delivers : body.Delivers count) (whole : delivered body.items = (bytes, none)) :
    bytes.length = count := by
  obtain ⟨chunks, fault, items, length⟩ := delivers
  rw [items, delivered_itemsThen] at whole
  obtain ⟨rfl, rfl⟩ := Prod.mk.inj whole
  exact length rfl

/-! ### Asking for the rest of a file -/

theorem openRange_eq (start : Nat) :
    openRange start = String.ofList (ByteRange.openChars start) := by
  have hyphen : "-".toList = ['-'] := by decide
  rw [← String.toList_inj, openRange, String.toList_append, String.toList_append, hyphen,
    Text.Decimal.render, String.toList_ofList, String.toList_ofList, String.toList_ofList,
    List.append_assoc]
  rfl

theorem requestedRange_openRange {request : Request} {start : UInt64}
    (asked : request.headers.get? "range" = some (Bytes.ofText (openRange start.toNat))) :
    requestedRange request = .ok (some ⟨start, 0⟩) := by
  have printed : ∀ c ∈ ByteRange.openChars start.toNat, 32 ≤ c.toNat ∧ c.toNat < 127 := by
    have all := ByteRange.forall_openChars (fun c => 32 ≤ c.toNat && c.toNat < 127) start.toNat
      (by decide) ?_ (by decide)
    · simpa using all
    intro c digit
    have bounds := Text.Decimal.toNat_of_isDigit digit
    simp only [Bool.and_eq_true, decide_eq_true_eq]
    omega
  have ascii : ∀ c ∈ ByteRange.openChars start.toNat, c.val ≤ 127 :=
    fun c mem => Nat.le_of_lt (printed c mem).2
  have chars := Bytes.map_ofNat_ofText_ascii ascii
  rw [← openRange_eq] at chars
  have shown : (Bytes.ofText (openRange start.toNat)).all isTextByte = true := by
    refine List.all_eq_true.2 fun b mem => ?_
    have bounds := printed (Char.ofNat b.toNat) (chars ▸ List.mem_map_of_mem mem)
    rw [Bytes.toNat_ofNat_byte] at bounds
    simp [isTextByte, bounds]
  simp only [requestedRange, asked, shown, if_true]
  rw [chars, ByteRange.parseChars_openChars]
  rfl

section Rest

variable {reader : Reader} {master : MasterKey} {request : Request} {fileId : String}
  {object : Bytes} {file : StoredFile}

/-- The content of a file that opens is no longer than packets can be numbered. -/
theorem content_lt (opens : StoredFile.decode object master = .ok file) :
    file.content.length < 2 ^ 64 := by
  obtain ⟨key, plain, -, -, opened, -, content⟩ := StoredFile.decode_ok_iff.1 opens
  have total := Packet.length_le_of_decodeAll opened
  have size : packetSize = 65536 := rfl
  rw [← content, List.length_drop]
  omega

theorem stopOf_open (start : UInt64) (size : Nat) : stopOf ⟨start, 0⟩ size = size :=
  if_pos (.inl rfl)

theorem decrypt_of_range (named : fileId? request.path = some fileId) {range : ByteRange}
    (asked : requestedRange request = .ok (some range)) :
    reader.decrypt master request = reader.decryptRange master fileId range := by
  rw [decrypt_eq_readFile named asked, readFile]

/-- What is handed out from a place on ends where the declared size says. -/
theorem declared_of_rest (opens : StoredFile.decode object master = .ok file)
    (stores : reader.Stores fileId object file.head) {start : UInt64}
    (inside : start.toNat < file.content.length) {response : Response Error}
    (answered : (reader.decryptRange master fileId ⟨start, 0⟩).1 = .ok response)
    (good : response.status = 206)
    (body : delivered response.body.items = (file.content.drop start.toNat, none)) :
    file.info.size.toNat = file.content.length := by
  obtain ⟨key, _, -, unwrapped, -⟩ := StoredFile.decode_ok_iff.1 opens
  obtain ⟨after, own, -, -⟩ := stores.head_eq opens unwrapped
  have read : (reader.readFile master fileId (some ⟨start, 0⟩)).1 = .ok response := answered
  obtain ⟨head, fileKey, found, _ | ⟨content, chunks⟩⟩ := answered_of_readFile read
  · cases good
  rw [own] at found
  obtain ⟨rfl, rfl⟩ := Prod.mk.inj (Except.ok.inj found)
  have satisfiable := hasContent_some.1 content
  have handed := length_of_delivers (Window.delivers_read rfl key chunks) body
  rw [toNat_length_extentOf, stopOf_open, List.length_drop] at handed
  rw [isUnsatisfiable_extentOf, decide_eq_false_iff_not] at satisfiable
  have before : start.toNat < file.info.size.toNat := Nat.not_le.1 satisfiable
  have count : file.content.length - start.toNat = file.info.size.toNat - start.toNat := handed
  omega

/-- The content of the file from a place on is handed out as a part. -/
def AnswersRest (reader : Reader) (master : MasterKey) (request : Request) (rest : Bytes) : Prop :=
  ∃ response after, reader.decrypt master request = (.ok response, after) ∧
    response.status = 206 ∧ delivered response.body.items = (rest, none)

/-- The request is refused with no body and with the size that is taken for the end of the file. -/
def Refuses (reader : Reader) (master : MasterKey) (request : Request) (size : Nat) : Prop :=
  ∃ response after, reader.decrypt master request = (.ok response, after) ∧
    response.status = 416 ∧ delivered response.body.items = ([], none) ∧
      response.headers.get? "content-range" = some (Bytes.ofText (sizeName size))

theorem Refuses.not_answersRest {size : Nat} {rest : Bytes}
    (refuses : Refuses reader master request size) : ¬ AnswersRest reader master request rest := by
  rintro ⟨response, after, answered, good, -⟩
  obtain ⟨refusal, other, refused, status, -⟩ := refuses
  rw [refused] at answered
  obtain rfl := Except.ok.inj (congrArg Prod.fst answered)
  rw [status] at good
  cases good

theorem refuses_of_undeclared (opens : StoredFile.decode object master = .ok file)
    (stores : reader.Stores fileId object file.head) (undeclared : file.info.size = 0)
    {range : ByteRange}
    (routed : reader.decrypt master request = reader.decryptRange master fileId range) :
    Refuses reader master request 0 := by
  have outside : file.info.size.toNat ≤ range.start.toNat := by
    rw [undeclared]
    exact Nat.zero_le _
  obtain ⟨after, refused, -⟩ := decryptRange_refused opens stores outside
  have size : (extentOf range file.head).fileSize = 0 :=
    (extentOf_fileSize range file.head).trans undeclared
  refine ⟨_, after, routed.trans refused, rfl, rfl, ?_⟩
  have shown : (unsatisfiable file.head (extentOf range file.head)).headers.get? "content-range" =
      some (Bytes.ofText (sizeName (extentOf range file.head).fileSize.toNat)) := rfl
  rw [shown, size]
  rfl

theorem facts_of_undeclared (opens : StoredFile.decode object master = .ok file)
    (stores : reader.Stores fileId object file.head) (undeclared : file.info.size = 0) :
    ∃ facts after, reader.facts master fileId = (.ok facts, after) ∧ facts.size = none := by
  obtain ⟨key, _, -, unwrapped, -⟩ := StoredFile.decode_ok_iff.1 opens
  obtain ⟨after, found, -, -⟩ := stores.head_eq opens unwrapped
  have own : file.head.info.size = 0 := undeclared
  rw [facts, found]
  exact ⟨_, after, rfl, if_pos own⟩

/-- The rest of a file from a place within it is handed out if and only if the declared size is the
length of the content. If none is declared, the request is refused, although the same file is handed
out as a whole and its size is told to be unknown. -/
theorem answersRest_iff (named : fileId? request.path = some fileId) {start : Nat}
    (asked : request.headers.get? "range" = some (Bytes.ofText (openRange start)))
    (opens : StoredFile.decode object master = .ok file)
    (stores : reader.Stores fileId object file.head) (inside : start < file.content.length) :
    (AnswersRest reader master request (file.content.drop start) ↔
      file.info.size.toNat = file.content.length) ∧
    (file.info.size = 0 → Refuses reader master request 0 ∧
      (∃ response after, reader.decryptWhole master fileId = (.ok response, after) ∧
        response.status = 200 ∧ delivered response.body.items = (file.content, none)) ∧
      ∃ facts after, reader.facts master fileId = (.ok facts, after) ∧ facts.size = none) := by
  have small := inside.trans (content_lt opens)
  obtain ⟨start, rfl⟩ : ∃ word : UInt64, start = word.toNat :=
    ⟨UInt64.ofNat start, (UInt64.toNat_ofNat_of_lt small).symm⟩
  have within : (ByteRange.mk start 0).start.toNat < file.content.length := inside
  have routed : reader.decrypt master request = reader.decryptRange master fileId ⟨start, 0⟩ :=
    decrypt_of_range named (requestedRange_openRange asked)
  refine ⟨⟨?_, fun sized => ?_⟩, fun undeclared => ⟨?_, ?_, ?_⟩⟩
  · rintro ⟨response, after, answered, good, body⟩
    rw [routed] at answered
    exact declared_of_rest opens stores inside (congrArg Prod.fst answered) good body
  · obtain ⟨key, chunks, after, answered, body⟩ := decryptRange_inside opens sized stores within
    refine ⟨_, after, routed.trans answered, rfl, body.trans ?_⟩
    rw [stopOf_open, List.take_of_length_le (Nat.le_of_eq List.length_drop)]
  · exact refuses_of_undeclared opens stores undeclared routed
  · obtain ⟨response, after, answered, good, -, body⟩ := decryptWhole_eq opens stores
    rw [if_pos undeclared] at body
    exact ⟨response, after, answered, good, body⟩
  · exact facts_of_undeclared opens stores undeclared

end Rest

/-- The second packet of a file of two is the rest from its start on. -/
theorem answersRest_of_sample :
    let request := sampleRequest [("range", Bytes.ofText (openRange 65536))]
    fileId? request.path = some sampleId ∧
      request.headers.get? "range" = some (Bytes.ofText (openRange 65536)) ∧
      StoredFile.decode sample.object ⟨sample.master.bytes⟩ = .ok sample.file ∧
      (ofLink (Link.holding sample.object)).Stores sampleId sample.object sample.file.head ∧
      65536 < sample.file.content.length ∧
      AnswersRest (ofLink (Link.holding sample.object)) ⟨sample.master.bytes⟩ request
        (sample.file.content.drop 65536) := by
  intro request
  obtain ⟨opens, stores⟩ := opens_sample
  have named : fileId? request.path = some sampleId := named_sample _
  have asked : request.headers.get? "range" = some (Bytes.ofText (openRange 65536)) := rfl
  have length : sample.file.content.length = 65540 := length_sample
  have inside : 65536 < sample.file.content.length := by omega
  have answers := (answersRest_iff named asked opens stores inside).1.2 length.symm
  exact ⟨named, asked, opens, stores, inside, answers⟩

/-- A file of three bytes that declares no size. -/
def undeclared : Sealing := { sample with info := ⟨"", "", 0⟩, content := [1, 2, 3] }

theorem fits_undeclared : undeclared.Fits :=
  .of_short rfl (fun _ => rfl) (by decide +kernel) (by decide)

/-- The last two of three bytes are asked for and refused, since no size is declared. -/
theorem undeclared_rest_refused :
    let reader := ofLink (Link.holding undeclared.object)
    let master : MasterKey := ⟨undeclared.master.bytes⟩
    let request := sampleRequest [("range", Bytes.ofText "bytes=1-")]
    StoredFile.decode undeclared.object master = .ok undeclared.file ∧
      undeclared.file.info.size = 0 ∧ undeclared.file.content = [1, 2, 3] ∧
      reader.Stores sampleId undeclared.object undeclared.file.head ∧
      ¬ AnswersRest reader master request [2, 3] ∧ Refuses reader master request 0 := by
  intro reader master request
  have opens := Sealing.decode_object fits_undeclared
  have stores : reader.Stores sampleId undeclared.object undeclared.file.head :=
    .ofLink (Link.serves_holding _ found_sampleId)
  have asked : requestedRange request = .ok (some ⟨1, 0⟩) := rfl
  have refuses := refuses_of_undeclared opens stores rfl (decrypt_of_range (named_sample _) asked)
  exact ⟨opens, rfl, rfl, stores, refuses.not_answersRest, refuses⟩

end SealGate.Reader
