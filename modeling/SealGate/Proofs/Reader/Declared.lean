import SealGate.Proofs.Reader.Answers

/-! What the headers of an answer declare. A body with a declared length hands out so many bytes or
breaks off with an error; a piece of a file is named by its first and last byte and the size of the
file, and has the length that is declared; a refusal has no body and names the size alone. Nothing
is asked of the origin: the declared numbers come from the confined extent and the bytes from the
window, which counts them itself. -/

namespace SealGate

open Http

/-- The body hands out so many bytes, or fails behind what it hands out. -/
def Http.Body.Delivers {ε : Type} (body : Body ε) (count : Nat) : Prop :=
  ∃ chunks fault, body.items = itemsThen chunks fault ∧
    (fault = none → chunks.flatten.length = count)

namespace Reader

open Vault Origin

/-- A window of known length shows so many bytes, or says why it shows fewer. -/
theorem Window.delivers_read {window : Window} {count : Nat} (known : window.length = some count)
    (key : Cipher.Key) (chunks : List (Except Error Bytes)) :
    (Body.streamed (window.read key chunks)).Delivers count := by
  refine ⟨_, _, window.read_eq_expected key chunks, ?_⟩
  rw [Nat.zero_add]
  split
  · rename_i filled
    intro _
    rw [isFilled, known, decide_eq_true_eq] at filled
    rw [flatten_items_zero, known, clip, List.length_take, List.length_drop]
    exact Nat.min_eq_left filled
  · -- a window that is not filled has at least the complaint that it is short
    intro clean
    rw [ending, known, Option.map_some, Option.or_eq_none_iff] at clean
    cases clean.2

/-- The text that names a piece of a file by its first and last byte and the size of the file. -/
def pieceName (first last total : Nat) : String :=
  "bytes " ++ Text.Decimal.render first ++ "-" ++ Text.Decimal.render last ++ "/" ++
    Text.Decimal.render total

/-- The text that names the size of a file alone. -/
def sizeName (total : Nat) : String := "bytes */" ++ Text.Decimal.render total

/-- The headers of a response agree with each other and with its body. -/
structure Declares (response : Response Vault.Error) : Prop where
  length : ∀ value ∈ response.headers.values "content-length",
    ∃ n, value = number n ∧ response.body.Delivers n
  piece : response.status = 206 → ∃ n first last total,
    0 < n ∧ first ≤ last ∧ last < total ∧ n = last - first + 1 ∧
      response.headers.values "content-length" = [number n] ∧
      response.headers.values "content-range" = [Bytes.ofText (pieceName first last total)]
  refusal : response.status = 416 → response.body.items = [] ∧ ∃ total,
    response.headers.values "content-range" = [Bytes.ofText (sizeName total)]

section Parts

variable {head : Head} {range : ByteRange}

theorem extentOf_piece (satisfiable : (extentOf range head).isUnsatisfiable = false) :
    0 < (extentOf range head).length.toNat ∧
      (extentOf range head).start.toNat + (extentOf range head).length.toNat ≤
        head.info.size.toNat := by
  rw [isUnsatisfiable_extentOf, decide_eq_false_iff_not, Nat.not_le] at satisfiable
  have bounds := stopOf_bounds satisfiable
  have start := toNat_start_extentOf range head
  have length := toNat_length_extentOf range head
  omega

theorem declares_partialContent (satisfiable : (extentOf range head).isUnsatisfiable = false)
    (fileKey : Cipher.Key) (chunks : List (Except Error Bytes)) :
    Declares (partialContent head fileKey (extentOf range head) chunks) := by
  obtain ⟨positive, inside⟩ := extentOf_piece satisfiable
  have small := head.info.size.toNat_lt
  have size := extentOf_fileSize range head
  have known : (extentOf range head).fileSize ≠ 0 := by
    rw [size]
    intro none
    rw [none, UInt64.toNat_zero] at inside
    omega
  have header := Extent.responseHeader_eq positive (by omega) known
  rw [size] at header
  refine ⟨?_, fun _ => ?_, fun refused => ?_⟩
  · intro value mem
    obtain rfl := List.mem_singleton.1 mem
    exact ⟨_, rfl, Window.delivers_read rfl fileKey chunks⟩
  · refine ⟨_, (extentOf range head).start.toNat,
      (extentOf range head).start.toNat + (extentOf range head).length.toNat - 1,
      head.info.size.toNat, positive, by omega, by omega, ?_, rfl, ?_⟩
    · omega
    · rw [pieceName, ← header]
      rfl
  · cases refused

theorem declares_unsatisfiable (head : Head) (extent : Extent) :
    Declares (unsatisfiable head extent) where
  length := by
    intro value mem
    cases mem
  piece partly := by cases partly
  refusal _ := ⟨rfl, extent.fileSize.toNat, rfl⟩

theorem declares_wholeContent (head : Head) (fileKey : Cipher.Key)
    (chunks : List (Except Error Bytes)) : Declares (wholeContent head fileKey chunks) := by
  refine ⟨?_, fun partly => ?_, fun refused => ?_⟩
  · intro value mem
    rw [wholeContent] at mem ⊢
    by_cases unknown : head.info.size = 0
    · simp only [if_pos unknown] at mem
      cases mem
    · simp only [if_neg unknown] at mem ⊢
      obtain rfl := List.mem_singleton.1 mem
      exact ⟨_, rfl, Window.delivers_read rfl fileKey chunks⟩
  · cases partly
  · cases refused

theorem Answered.declares {fileKey : Cipher.Key} {wanted : Option ByteRange}
    {response : Response Vault.Error} (answered : Answered head fileKey wanted response) :
    Declares response := by
  cases answered with
  | refused => exact declares_unsatisfiable head _
  | content content chunks =>
    cases wanted with
    | none => exact declares_wholeContent head fileKey chunks
    | some range => exact declares_partialContent (hasContent_some.1 content) fileKey chunks

end Parts

variable {key : MasterKey} {fileId : String} {reader : Reader} {response : Response Vault.Error}

/-- Whatever the origin sends and whatever a reader holds, the headers of an answer are right: a
body of declared length hands out so many bytes or fails, and the named piece has that length. -/
theorem headers_declare_body {request : Request}
    (answered : (reader.decrypt key request).1 = .ok response) : Declares response := by
  obtain ⟨range, head, fileKey, answered⟩ := answered_of_decrypt answered
  exact answered.declares

/-- A reader that knows the head of one file and gets three bytes for every request. -/
def cutOff (fileId : String) (head : Head) : Reader where
  link := .always (.response ⟨200, [], .ofBytes [1, 2, 3]⟩)
  heads := ⟨1, [(fileId, head)]⟩

theorem decryptRange_cutOff {fileId : String} {head : Head} {fileKey : Cipher.Key}
    {range : ByteRange}
    (located : (locate "http://[::1]" (Link.objectRequest fileId none)).toOption.map Net.Url.user =
      some none)
    (unwrapped : head.header.unwrap key = .ok fileKey)
    (satisfiable : (extentOf range head).isUnsatisfiable = false) :
    ((cutOff fileId head).decryptRange key fileId range).1 =
      .ok (partialContent head fileKey (extentOf range head) [.ok [1, 2, 3]]) := by
  have found : (cutOff fileId head).head key fileId =
      (.ok (head, fileKey), cutOff fileId head) := by
    simp [Reader.head, cutOff, Recent.get, Recent.lookup?, Recent.others, unwrapped, Except.map]
  have streamed : ((cutOff fileId head).link.stream fileId
      (some (extentOf range head).requestHeader)).1 = .ok [.ok [1, 2, 3]] := by
    have part : locate "http://[::1]" (Link.objectRequest fileId
        (some (extentOf range head).requestHeader)) =
          locate "http://[::1]" (Link.objectRequest fileId none) := by
      rw [(extentOf range head).requestHeader_eq]
      exact Link.locate_range _ (Link.isValue_closedRange _ _)
    rw [← part] at located
    have whole : Link.objectOf ⟨200, [], .ofBytes [1, 2, 3]⟩ = .ok (.ofBytes [1, 2, 3]) := rfl
    exact congrArg Prod.fst (Link.stream_of_object (Link.reply_always located _ []) whole)
  have read := congrArg Prod.fst (readFile_of_found found (hasContent_some.2 satisfiable))
  rw [contentRange, streamed] at read
  exact read

theorem headers_declare_body_of_cutOff :
    ∃ response, ((cutOff sampleId sample.file.head).decrypt ⟨sample.master.bytes⟩
        (sampleRequest [("range", Bytes.ofText "bytes=65000-66000")])).1 = .ok response ∧
      response.status = 206 ∧ Declares response := by
  have asked : requestedRange (sampleRequest [("range", Bytes.ofText "bytes=65000-66000")]) =
      .ok (some sampleRange) := rfl
  have size : sample.file.head.info.size = 65540 := rfl
  have satisfiable : (extentOf sampleRange sample.file.head).isUnsatisfiable = false := by
    rw [isUnsatisfiable_extentOf, size]
    decide
  have answered := decryptRange_cutOff found_sampleId (Sealing.unwrap_file fits_sample) satisfiable
  have routed : ((cutOff sampleId sample.file.head).decrypt ⟨sample.master.bytes⟩
      (sampleRequest [("range", Bytes.ofText "bytes=65000-66000")])).1 =
        ((cutOff sampleId sample.file.head).decryptRange ⟨sample.master.bytes⟩ sampleId
          sampleRange).1 := by
    rw [decrypt_eq_readFile (named_sample _) asked, readFile]
  exact ⟨_, routed.trans answered, rfl, headers_declare_body (routed.trans answered)⟩

end Reader

end SealGate
