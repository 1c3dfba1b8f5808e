import SealGate.Proofs.Reader.Stores
import SealGate.Proofs.Reader.Window
import SealGate.Proofs.Vault.Extent

/-! What a reader answers when the object behind a file opens. The whole file and a range of it are
read packet by packet from the places that the header, the metadata and the sizes of packets give;
what is handed out is the content as it is found when the object is opened as a whole, or the piece
of it that the range and the declared size have in common. -/

namespace SealGate.Reader

open Http Vault Origin

/-! ### Packets that open -/

namespace Window

variable (window : Window) {key : Cipher.Key} {stored plain : Bytes}
  {chunks : List (Except Error Bytes)}

/-- A window on all packets shows what it wants of the plaintext. -/
theorem delivered_whole (opens : Packet.decodeAll stored key 0 = .ok plain)
    (start : window.first = 0) (held : delivered chunks = (stored, none)) :
    delivered (window.read key chunks) =
      (clip window.skip window.length plain,
        if window.isFilled plain.length then none else window.ending none none) := by
  have run : window.opened key chunks = (Bytes.chunks packetSize plain, none) := by
    rw [Window.opened, held, start]
    exact Packet.openFrom_of_decodeAll opens
  rw [read_eq_expected, delivered_expected, run, held, Bytes.flatten_chunks packetSize_pos]

/-- A window on a run of packets that covers it shows the piece of the plaintext at its place. -/
theorem delivered_slice (opens : Packet.decodeAll stored key 0 = .ok plain) {packets count : Nat}
    (known : window.length = some count)
    (held : delivered chunks =
      ((stored.drop (storedPacketSize * window.first)).take (storedPacketSize * packets), none))
    (inside : packetSize * window.first + window.skip + count ≤ plain.length)
    (covered : window.skip + count ≤ packetSize * packets) :
    delivered (window.read key chunks) =
      ((plain.drop (packetSize * window.first + window.skip)).take count, none) := by
  have run : window.opened key chunks = (Bytes.chunks packetSize
      ((plain.drop (packetSize * window.first)).take (packetSize * packets)), none) := by
    have slice := Packet.openFrom_slice opens window.first packets
    rw [Nat.zero_add] at slice
    rw [Window.opened, held]
    exact slice
  have filled : window.isFilled
      ((plain.drop (packetSize * window.first)).take (packetSize * packets)).length = true := by
    simp only [isFilled, known, List.length_take, List.length_drop, decide_eq_true_eq]
    omega
  rw [read_eq_expected, delivered_expected, run, held, Bytes.flatten_chunks packetSize_pos,
    if_pos filled]
  simp only [clip, known, List.drop_take, List.take_take, List.drop_drop]
  rw [Nat.min_eq_left (by omega)]

end Window

/-! ### Requests for a file of two packets -/

def sampleId : String := "01234567-89ab-cdef-0123-456789abcdef"

theorem found_sampleId :
    (locate "http://[::1]" (Link.objectRequest sampleId none)).toOption.map Net.Url.user =
      some none := by
  decide +kernel

def sampleRequest (headers : Headers) : Request :=
  ⟨"GET", .here ⟨"/file/01234567-89ab-cdef-0123-456789abcdef", none⟩, headers, []⟩

theorem named_sample (headers : Headers) :
    fileId? (sampleRequest headers).path = some sampleId := by
  have named : fileId? "/file/01234567-89ab-cdef-0123-456789abcdef" = some sampleId := by
    decide +kernel
  exact named

/-- The file opens, and a new reader of an origin that holds it stores it. -/
theorem opens_sample :
    StoredFile.decode sample.object ⟨sample.master.bytes⟩ = .ok sample.file ∧
      (ofLink (Link.holding sample.object)).Stores sampleId sample.object sample.file.head :=
  ⟨Sealing.decode_object fits_sample, .ofLink (Link.serves_holding _ found_sampleId)⟩

/-! ### The whole file -/

variable {reader : Reader} {master : MasterKey} {request : Request} {fileId : String}
  {object : Bytes} {file : StoredFile}

/-- Behind the header of an object that opens stand its packets. -/
theorem header_lt_length (opens : StoredFile.decode object master = .ok file) :
    file.header.length < object.length := by
  obtain ⟨key, plain, parsed, -, opened, split, -⟩ := StoredFile.decode_ok_iff.1 opens
  have long := FileInfo.of_split split
  have stored := Packet.stored_of_decodeAll opened 0 (by omega)
  rw [List.length_drop] at stored
  omega

theorem headers_wholeContent (head : Head) (fileKey : Cipher.Key)
    (chunks : List (Except Error Bytes)) : (wholeContent head fileKey chunks).headers =
      contentHeaders head.info ++
        (if head.info.size = 0 then [] else [("content-length", number head.info.size.toNat)]) ++
        [("accept-ranges", Bytes.ofText "bytes")] := by
  rw [wholeContent]
  split <;> rfl

/-- The content of the file as far as its declared size goes, with what stands behind it. -/
theorem decryptWhole_eq (opens : StoredFile.decode object master = .ok file)
    (stores : reader.Stores fileId object file.head) :
    ∃ response after, reader.decryptWhole master fileId = (.ok response, after) ∧
      response.status = 200 ∧
      response.headers = contentHeaders file.info ++
        (if file.info.size = 0 then []
          else [("content-length", number file.info.size.toNat)]) ++
        [("accept-ranges", Bytes.ofText "bytes")] ∧
      delivered response.body.items =
        if file.info.size = 0 then (file.content, none)
        else (file.content.take file.info.size.toNat,
          if file.info.size.toNat ≤ file.content.length then none
          else some (.corrupted .objectEnded)) := by
  obtain ⟨key, plain, parsed, unwrapped, opened, split, content⟩ :=
    StoredFile.decode_ok_iff.1 opens
  obtain ⟨after, found, still, -⟩ := stores.head_eq opens unwrapped
  obtain ⟨chunks, streamed, held⟩ := still.served.stream_open (header_lt_length opens)
  have length : file.content.length = plain.length - file.infoLength := by
    rw [← content, List.length_drop]
  have text : "bytes=" ++ Text.Decimal.render file.head.header.length ++ "-" =
      openRange file.header.length := rfl
  have read := readFile_of_found found (hasContent_none file.head)
  rw [contentRange, text, streamed] at read
  refine ⟨_, _, read, rfl, ?_, ?_⟩
  · exact headers_wholeContent file.head key chunks
  · have shown := Window.delivered_whole ⟨0, file.infoLength,
      if file.info.size = 0 then none else some file.info.size.toNat⟩ opened rfl held
    refine shown.trans ?_
    by_cases unknown : file.info.size = 0
    · simp only [if_pos unknown, clip, content, Window.isFilled, Window.ending]
      rfl
    · simp only [if_neg unknown, clip, content, Window.isFilled, Window.ending, length,
        decide_eq_true_eq]
      rfl

/-- A request without a range gets the content that opening the whole object finds: all of it if no
size is declared, as much as is declared if there is so much, and all of it with a failure behind it
if there is less. -/
theorem decrypt_agrees_with_whole_object (named : fileId? request.path = some fileId)
    (asked : requestedRange request = .ok none)
    (opens : StoredFile.decode object master = .ok file)
    (stores : reader.Stores fileId object file.head) :
    ∃ response after, reader.decrypt master request = (.ok response, after) ∧
      response.status = 200 ∧
      (file.info.size = 0 →
        delivered response.body.items = (file.content, none) ∧
          response.headers.get? "content-length" = none) ∧
      (0 < file.info.size.toNat → file.info.size.toNat ≤ file.content.length →
        delivered response.body.items = (file.content.take file.info.size.toNat, none)) ∧
      (file.content.length < file.info.size.toNat →
        delivered response.body.items = (file.content, some (.corrupted .objectEnded))) := by
  obtain ⟨response, after, answered, good, headers, body⟩ := decryptWhole_eq opens stores
  have declared (some : 0 < file.info.size.toNat) : file.info.size ≠ 0 := by
    intro none
    rw [none] at some
    exact absurd some (by decide)
  refine ⟨response, after, ?_, good, ?_, ?_, ?_⟩
  · rw [decrypt_eq_readFile named asked, readFile, answered]
  · intro unknown
    rw [if_pos unknown] at headers body
    refine ⟨body, ?_⟩
    rw [headers]
    rfl
  · intro known enough
    rw [body, if_neg (declared known), if_pos enough]
  · intro short
    rw [body, if_neg (declared (by omega)), if_neg (by omega), List.take_of_length_le (by omega)]

theorem decrypt_agrees_with_whole_sample :
    fileId? (sampleRequest []).path = some sampleId ∧
      requestedRange (sampleRequest []) = .ok none ∧
      StoredFile.decode sample.object ⟨sample.master.bytes⟩ = .ok sample.file ∧
      (ofLink (Link.holding sample.object)).Stores sampleId sample.object sample.file.head ∧
      ∃ response after, (ofLink (Link.holding sample.object)).decrypt ⟨sample.master.bytes⟩
          (sampleRequest []) = (.ok response, after) ∧ response.status = 200 ∧
        delivered response.body.items = (sample.content.take 65540, none) := by
  obtain ⟨opens, stores⟩ := opens_sample
  have asked : requestedRange (sampleRequest []) = .ok none := rfl
  obtain ⟨response, after, answered, good, -, body, -⟩ :=
    decrypt_agrees_with_whole_object (named_sample []) asked opens stores
  have size : sample.file.info.size.toNat = 65540 := rfl
  rw [size] at body
  exact ⟨named_sample [], asked, opens, stores, response, after, answered, good,
    body (by decide) (Nat.le_of_eq length_sample.symm)⟩

/-! ### A range of the file -/

/-- One past the last byte that a range has in common with a file of a given size. -/
def stopOf (range : ByteRange) (size : Nat) : Nat :=
  if range.length = 0 ∨ size - range.start.toNat < range.length.toNat then size
  else range.start.toNat + range.length.toNat

theorem stopOf_bounds {range : ByteRange} {size : Nat} (inside : range.start.toNat < size) :
    range.start.toNat < stopOf range size ∧ stopOf range size ≤ size := by
  rw [stopOf]
  split
  · exact ⟨inside, Nat.le_refl _⟩
  · rename_i bounded
    have some : range.length.toNat ≠ 0 := by
      intro none
      exact bounded (.inl (UInt64.toNat_inj.1 none))
    omega

section Extents

variable (range : ByteRange) (head : Head)

theorem extentOf_fileSize :
    (extentOf range head).fileSize = head.info.size :=
  (Extent.setFileSize_offsets _ _).2.2

theorem toNat_start_extentOf :
    (extentOf range head).start.toNat = min range.start.toNat head.info.size.toNat :=
  Extent.toNat_start_setFileSize _ _

theorem isUnsatisfiable_extentOf :
    (extentOf range head).isUnsatisfiable = decide (head.info.size.toNat ≤ range.start.toNat) := by
  have start := toNat_start_extentOf range head
  rw [Extent.isUnsatisfiable, extentOf_fileSize]
  refine decide_eq_decide.2 ?_
  rw [UInt64.le_iff_toNat_le]
  omega

theorem toNat_length_extentOf :
    (extentOf range head).length.toNat =
      stopOf range head.info.size.toNat - range.start.toNat := by
  have length := Extent.toNat_length_setFileSize
    { Extent.ofRequest range.start range.length with
      headerOffset := UInt64.ofNat head.header.length
      metadataOffset := UInt64.ofNat head.infoLength } head.info.size
  refine length.trans ?_
  show (if range.length = 0 then _ else _) = _
  rw [stopOf]
  by_cases unbounded : range.length = 0
  · rw [if_pos unbounded, if_pos (.inl unbounded)]
    rfl
  · rw [if_neg unbounded]
    show min range.length.toNat (head.info.size.toNat - range.start.toNat) = _
    by_cases long : head.info.size.toNat - range.start.toNat < range.length.toNat
    · rw [if_pos (.inr long)]
      omega
    · rw [if_neg (by simp [unbounded, long])]
      omega

variable {head : Head}

theorem toNat_headerOffset_extentOf (small : head.header.length ≤ Header.maxLength) :
    (extentOf range head).headerOffset.toNat = head.header.length := by
  have most : Header.maxLength = 256 := rfl
  rw [extentOf, (Extent.setFileSize_offsets _ _).1]
  exact UInt64.toNat_ofNat_of_lt (by show _ < 2 ^ 64; omega)

theorem toNat_metadataOffset_extentOf
    (small : head.infoLength ≤ FileInfo.maxLength + 2) :
    (extentOf range head).metadataOffset.toNat = head.infoLength := by
  have most : FileInfo.maxLength = 32766 := rfl
  rw [extentOf, (Extent.setFileSize_offsets _ _).2.1]
  exact UInt64.toNat_ofNat_of_lt (by show _ < 2 ^ 64; omega)

end Extents

/-- The extent of a range that starts within a file that opens, in numbers. -/
theorem extentOf_inside (opens : StoredFile.decode object master = .ok file)
    (sized : file.info.size.toNat = file.content.length) {range : ByteRange}
    (inside : range.start.toNat < file.content.length) :
    (extentOf range file.head).start.toNat = range.start.toNat ∧
      range.start.toNat + (extentOf range file.head).length.toNat =
        stopOf range file.content.length ∧
      (extentOf range file.head).headerOffset.toNat = file.header.length ∧
      (extentOf range file.head).metadataOffset.toNat = file.infoLength ∧
      (extentOf range file.head).Fits := by
  obtain ⟨key, plain, parsed, unwrapped, opened, split, content⟩ :=
    StoredFile.decode_ok_iff.1 opens
  obtain ⟨-, short, -⟩ := Header.of_parse parsed
  obtain ⟨-, small, fits⟩ := FileInfo.of_split split
  have declared : file.head.info.size.toNat = file.content.length := sized
  have start : (extentOf range file.head).start.toNat = range.start.toNat := by
    rw [toNat_start_extentOf, declared]
    omega
  have bounds := stopOf_bounds inside
  have length := toNat_length_extentOf range file.head
  rw [declared] at length
  have header : (extentOf range file.head).headerOffset.toNat = file.header.length :=
    toNat_headerOffset_extentOf range short
  have metadata : (extentOf range file.head).metadataOffset.toNat = file.infoLength :=
    toNat_metadataOffset_extentOf range small
  refine ⟨start, by omega, header, metadata, ?_⟩
  have total := Packet.length_le_of_decodeAll opened
  have behind : file.content.length = plain.length - file.infoLength := by
    rw [← content, List.length_drop]
  have most : Header.maxLength = 256 := rfl
  have size : packetSize = 65536 := rfl
  exact Extent.fits_of_le (by omega) (by omega)

section Pieces

variable {extent : Extent} {header : Nat} {key : Cipher.Key} {plain : Bytes}

/-- The origin gives the packets of an extent. -/
theorem stream_extent {link : Link} (serves : link.Serves fileId object)
    (opened : Packet.decodeAll (object.drop header) key 0 = .ok plain) (fits : extent.Fits)
    (offset : extent.headerOffset.toNat = header)
    (inside : extent.start.toNat + extent.metadataOffset.toNat < plain.length) :
    ∃ chunks, link.stream fileId (some extent.requestHeader) =
        (.ok chunks, link.after (Link.objectRequest fileId (some extent.requestHeader))) ∧
      delivered chunks =
        (((object.drop header).drop (storedPacketSize * extent.firstPacket.toNat)).take
          (storedPacketSize * (extent.endPacket.toNat - extent.firstPacket.toNat)), none) := by
  have place := Extent.firstPacket_add_skip fits.plain
  have some := Nat.mul_le_mul_left storedPacketSize
    (Nat.succ_le_of_lt extent.firstPacket_lt_endPacket)
  rw [Nat.mul_succ] at some
  have stored := Packet.stored_of_decodeAll opened extent.firstPacket.toNat (by omega)
  rw [List.length_drop] at stored
  have size := storedPacketSize_pos
  have first : extent.firstPacket.toNat * storedPacketSize + extent.headerOffset.toNat =
      header + storedPacketSize * extent.firstPacket.toNat := by
    rw [offset, Nat.mul_comm, Nat.add_comm]
  have stop : extent.endPacket.toNat * storedPacketSize + extent.headerOffset.toNat =
      header + storedPacketSize * extent.endPacket.toNat := by
    rw [offset, Nat.mul_comm, Nat.add_comm]
  have count : header + storedPacketSize * extent.endPacket.toNat - 1 + 1 -
      (header + storedPacketSize * extent.firstPacket.toNat) =
      storedPacketSize * (extent.endPacket.toNat - extent.firstPacket.toNat) := by
    rw [Nat.mul_sub]
    omega
  obtain ⟨chunks, streamed, held⟩ := serves.stream_closed
    (header + storedPacketSize * extent.firstPacket.toNat)
    (header + storedPacketSize * extent.endPacket.toNat - 1) (by omega) (by omega)
  rw [extent.requestHeader_eq, Extent.toNat_firstByte fits, Extent.toNat_endByte fits, first, stop]
  rw [count, ← List.drop_drop] at held
  exact ⟨chunks, streamed, held⟩

/-- The packets of an extent give its piece of the plaintext. -/
theorem delivered_partialContent {stored : Bytes} {chunks : List (Except Error Bytes)} (head : Head)
    (opened : Packet.decodeAll stored key 0 = .ok plain) (fits : extent.Fits)
    (held : delivered chunks = ((stored.drop (storedPacketSize * extent.firstPacket.toNat)).take
      (storedPacketSize * (extent.endPacket.toNat - extent.firstPacket.toNat)), none))
    (inside : extent.start.toNat + extent.length.toNat + extent.metadataOffset.toNat ≤
      plain.length) :
    delivered (partialContent head key extent chunks).body.items =
      ((plain.drop (extent.start.toNat + extent.metadataOffset.toNat)).take extent.length.toNat,
        none) := by
  have place := Extent.firstPacket_add_skip fits.plain
  have covered := Extent.end_lt_endPacket fits.plain
  have shown := Window.delivered_slice
    ⟨extent.firstPacket.toNat, extent.skip.toNat, some extent.length.toNat⟩ opened rfl held
    (by simp only; omega) (by simp only [Nat.mul_sub]; omega)
  rw [← place]
  exact shown

end Pieces

/-- A range that starts within the file gets its piece of the content. -/
theorem decryptRange_inside (opens : StoredFile.decode object master = .ok file)
    (sized : file.info.size.toNat = file.content.length)
    (stores : reader.Stores fileId object file.head) {range : ByteRange}
    (inside : range.start.toNat < file.content.length) :
    ∃ key chunks after, reader.decryptRange master fileId range =
        (.ok (partialContent file.head key (extentOf range file.head) chunks), after) ∧
      delivered (partialContent file.head key (extentOf range file.head) chunks).body.items =
        ((file.content.drop range.start.toNat).take
          (stopOf range file.content.length - range.start.toNat), none) := by
  obtain ⟨key, plain, parsed, unwrapped, opened, split, content⟩ :=
    StoredFile.decode_ok_iff.1 opens
  obtain ⟨after, found, still, -⟩ := stores.head_eq opens unwrapped
  obtain ⟨start, stop, header, metadata, fits⟩ := extentOf_inside opens sized inside
  have long := stopOf_bounds inside
  have behind : file.content.length = plain.length - file.infoLength := by
    rw [← content, List.length_drop]
  have satisfiable : (extentOf range file.head).isUnsatisfiable = false := by
    have declared : file.head.info.size.toNat = file.content.length := sized
    rw [isUnsatisfiable_extentOf, declared]
    exact decide_eq_false (by omega)
  obtain ⟨chunks, streamed, held⟩ :=
    stream_extent still.served opened fits header (by omega)
  have shown := delivered_partialContent file.head opened fits held (by omega)
  have count : (extentOf range file.head).length.toNat =
      stopOf range file.content.length - range.start.toNat := by omega
  have read := readFile_of_found found (hasContent_some.2 satisfiable)
  rw [contentRange, streamed] at read
  refine ⟨key, chunks, _, read, ?_⟩
  rw [shown, count, start, metadata, ← content, List.drop_drop, Nat.add_comm]

/-- A range that starts at or behind the declared end of the file is refused, and nothing but the
head has been asked for. -/
theorem decryptRange_refused (opens : StoredFile.decode object master = .ok file)
    (stores : reader.Stores fileId object file.head) {range : ByteRange}
    (outside : file.info.size.toNat ≤ range.start.toNat) :
    ∃ after, reader.decryptRange master fileId range =
        (.ok (unsatisfiable file.head (extentOf range file.head)), after) ∧
      after.link.sent = reader.link.sent ++ reader.peeks fileId := by
  obtain ⟨key, _, -, unwrapped, -⟩ := StoredFile.decode_ok_iff.1 opens
  obtain ⟨after, found, -, log⟩ := stores.head_eq opens unwrapped
  have refused : (extentOf range file.head).isUnsatisfiable = true := by
    rw [isUnsatisfiable_extentOf]
    exact decide_eq_true outside
  exact ⟨after, readFile_of_refused found refused, log⟩

theorem decryptRange_outside (opens : StoredFile.decode object master = .ok file)
    (sized : file.info.size.toNat = file.content.length)
    (stores : reader.Stores fileId object file.head) {range : ByteRange}
    (outside : file.content.length ≤ range.start.toNat) :
    ∃ after, reader.decryptRange master fileId range =
        (.ok (unsatisfiable file.head (extentOf range file.head)), after) ∧
      after.link.sent = reader.link.sent ++ reader.peeks fileId :=
  decryptRange_refused opens stores (sized ▸ outside)

/-- The text that names the piece of a range in a file of a given size. -/
def pieceText (range : ByteRange) (size : Nat) : String :=
  "bytes " ++ Text.Decimal.render range.start.toNat ++ "-" ++
    Text.Decimal.render (stopOf range size - 1) ++ "/" ++ Text.Decimal.render size

theorem responseHeader_extentOf (opens : StoredFile.decode object master = .ok file)
    (sized : file.info.size.toNat = file.content.length) {range : ByteRange}
    (inside : range.start.toNat < file.content.length) :
    (extentOf range file.head).responseHeader = pieceText range file.content.length := by
  obtain ⟨start, stop, -, -, fits⟩ := extentOf_inside opens sized inside
  have long := stopOf_bounds inside
  have plain := fits.plain
  have size : (extentOf range file.head).fileSize = file.info.size := extentOf_fileSize _ _
  have known : (extentOf range file.head).fileSize ≠ 0 := by
    intro none
    rw [← size, none] at sized
    simp only [UInt64.toNat_zero] at sized
    omega
  rw [Extent.responseHeader_eq (by omega) (by omega) known, size, sized, start, stop, pieceText]

/-- A request with a range gets exactly the piece of the content that the range names, cut off at
the end of the file; if the range starts at or behind the end, it is told the size and nothing more
is fetched. -/
theorem decrypt_answers_range (named : fileId? request.path = some fileId) {range : ByteRange}
    (asked : requestedRange request = .ok (some range))
    (opens : StoredFile.decode object master = .ok file)
    (sized : file.info.size.toNat = file.content.length)
    (stores : reader.Stores fileId object file.head) :
    ∃ response after, reader.decrypt master request = (.ok response, after) ∧
      (range.start.toNat < file.content.length →
        response.status = 206 ∧
          delivered response.body.items = ((file.content.drop range.start.toNat).take
            (stopOf range file.content.length - range.start.toNat), none) ∧
          response.headers.get? "content-length" =
            some (number (stopOf range file.content.length - range.start.toNat)) ∧
          response.headers.get? "content-range" =
            some (Bytes.ofText (pieceText range file.content.length))) ∧
      (file.content.length ≤ range.start.toNat →
        response.status = 416 ∧ delivered response.body.items = ([], none) ∧
          response.headers.get? "content-range" =
            some (Bytes.ofText ("bytes */" ++ Text.Decimal.render file.content.length)) ∧
          after.link.sent = reader.link.sent ++ reader.peeks fileId) := by
  have routed : reader.decrypt master request = reader.decryptRange master fileId range := by
    rw [decrypt_eq_readFile named asked, readFile]
  rcases Nat.lt_or_ge range.start.toNat file.content.length with inside | outside
  · obtain ⟨key, chunks, after, answered, body⟩ := decryptRange_inside opens sized stores inside
    refine ⟨_, after, routed.trans answered, fun _ => ?_, by omega⟩
    have header := responseHeader_extentOf opens sized inside
    obtain ⟨start, stop, -⟩ := extentOf_inside opens sized inside
    refine ⟨rfl, body, ?_, ?_⟩
    · rw [← stop, Nat.add_sub_cancel_left]
      rfl
    · rw [← header]
      rfl
  · obtain ⟨after, answered, log⟩ := decryptRange_outside opens sized stores outside
    refine ⟨_, after, routed.trans answered, by omega, fun _ => ?_⟩
    refine ⟨rfl, rfl, ?_, log⟩
    have size : (extentOf range file.head).fileSize = file.info.size := extentOf_fileSize _ _
    rw [← sized, ← size]
    rfl

/-- A range that starts in the first packet and goes on behind the end of the file. -/
def sampleRange : ByteRange := ⟨65000, 1001⟩

theorem decrypt_answers_range_of_sample :
    fileId? (sampleRequest [("range", Bytes.ofText "bytes=65000-66000")]).path = some sampleId ∧
      requestedRange (sampleRequest [("range", Bytes.ofText "bytes=65000-66000")]) =
        .ok (some sampleRange) ∧
      StoredFile.decode sample.object ⟨sample.master.bytes⟩ = .ok sample.file ∧
      sample.file.info.size.toNat = sample.file.content.length ∧
      (ofLink (Link.holding sample.object)).Stores sampleId sample.object sample.file.head ∧
      ∃ response after, (ofLink (Link.holding sample.object)).decrypt ⟨sample.master.bytes⟩
          (sampleRequest [("range", Bytes.ofText "bytes=65000-66000")]) = (.ok response, after) ∧
        response.status = 206 ∧
        delivered response.body.items = ((sample.content.drop 65000).take 540, none) := by
  obtain ⟨opens, stores⟩ := opens_sample
  have asked : requestedRange (sampleRequest [("range", Bytes.ofText "bytes=65000-66000")]) =
      .ok (some sampleRange) := rfl
  have length : sample.file.content.length = 65540 := length_sample
  have sized : sample.file.info.size.toNat = sample.file.content.length := length.symm
  obtain ⟨response, after, answered, within, -⟩ :=
    decrypt_answers_range (named_sample _) asked opens sized stores
  have start : sampleRange.start.toNat = 65000 := rfl
  have stop : stopOf sampleRange 65540 = 65540 := by decide
  rw [length, start, stop] at within
  obtain ⟨good, body, -⟩ := within (by decide)
  exact ⟨named_sample _, asked, opens, sized, stores, response, after, answered, good, body⟩

end SealGate.Reader
