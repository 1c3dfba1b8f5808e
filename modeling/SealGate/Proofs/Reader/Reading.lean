import Mathlib.Logic.Basic
import SealGate.Reader

/-! Reading a file, whole or in part. Its head is looked for; if there is none, the error is the
answer, and of a range that starts behind the end nothing more is asked for. Else the content is
streamed, and the answer is made of what comes. Both ways to read are one function here, so that
what holds of reading is shown once. -/

namespace SealGate.Reader

open Http Vault Origin

/-- The range of a stored object that holds what is wanted of a file. -/
def contentRange (head : Head) : Option ByteRange → String
  | none => "bytes=" ++ Text.Decimal.render head.header.length ++ "-"
  | some range => (extentOf range head).requestHeader

/-- There is something to fetch for an answer. -/
def HasContent (head : Head) (range : Option ByteRange) : Prop :=
  ∀ asked, range = some asked → (extentOf asked head).isUnsatisfiable = false

theorem hasContent_none (head : Head) : HasContent head none := nofun

theorem hasContent_some {head : Head} {range : ByteRange} :
    HasContent head (some range) ↔ (extentOf range head).isUnsatisfiable = false := by
  simp [HasContent]

theorem not_hasContent {head : Head} {range : Option ByteRange} (empty : ¬ HasContent head range) :
    ∃ asked, range = some asked ∧ (extentOf asked head).isUnsatisfiable = true := by
  simpa only [HasContent, not_forall, exists_prop, Bool.not_eq_false] using empty

/-- The answer with all of a run of stored chunks. -/
def wholeContent (head : Head) (fileKey : Cipher.Key) (chunks : List (Except Vault.Error Bytes)) :
    Response Vault.Error :=
  let length := if head.info.size = 0 then none else some head.info.size.toNat
  let window : Window := ⟨0, head.infoLength, length⟩
  { status := 200
    headers := contentHeaders head.info ++
      (length.map fun n => ("content-length", number n)).toList ++
      [("accept-ranges", Bytes.ofText "bytes")]
    body := .streamed (window.read fileKey chunks) }

/-- The answer with what is wanted of a run of stored chunks. -/
def contentAnswer (head : Head) (fileKey : Cipher.Key) :
    Option ByteRange → List (Except Vault.Error Bytes) → Response Vault.Error
  | none => wholeContent head fileKey
  | some range => partialContent head fileKey (extentOf range head)

/-- A file in whole, or a range of it. -/
def readFile (key : MasterKey) (fileId : String) :
    Option ByteRange → Reader → Except Vault.Error (Response Vault.Error) × Reader
  | none, reader => reader.decryptWhole key fileId
  | some range, reader => reader.decryptRange key fileId range

variable {reader after : Reader} {key : MasterKey} {fileId : String} {range : Option ByteRange}
  {head : Head} {fileKey : Cipher.Key}

theorem decrypt_eq_readFile {request : Request} (named : fileId? request.path = some fileId)
    (asked : requestedRange request = .ok range) :
    reader.decrypt key request = reader.readFile key fileId range := by
  cases range <;> simp only [decrypt, readFile, named, asked]

/-- A request that names no file, or a range that cannot be read, leaves the reader as it was. -/
theorem decrypt_cases (reader : Reader) (key : MasterKey) (request : Request) :
    (∃ fault, reader.decrypt key request = (.error (.invalidRequest fault), reader)) ∨
      ∃ fileId range, fileId? request.path = some fileId ∧ requestedRange request = .ok range ∧
        reader.decrypt key request = reader.readFile key fileId range := by
  rcases named : fileId? request.path with _ | fileId
  · exact .inl ⟨.noFileId, by simp only [decrypt, named]⟩
  rcases asked : requestedRange request with fault | range
  · exact .inl ⟨.rangeHeader fault, by simp only [decrypt, named, asked]⟩
  · exact .inr ⟨fileId, range, rfl, rfl, decrypt_eq_readFile named asked⟩

theorem readFile_of_unfound {error : Vault.Error}
    (failed : reader.head key fileId = (.error error, after)) :
    reader.readFile key fileId range = (.error error, after) := by
  cases range with
  | none => rw [readFile, decryptWhole, failed]
  | some range => rw [readFile, decryptRange, failed]

theorem readFile_of_refused {asked : ByteRange}
    (found : reader.head key fileId = (.ok (head, fileKey), after))
    (refused : (extentOf asked head).isUnsatisfiable = true) :
    reader.readFile key fileId (some asked) =
      (.ok (unsatisfiable head (extentOf asked head)), after) := by
  rw [readFile, decryptRange, found]
  exact if_pos refused

/-- Once its head is there, the content of a file is streamed. -/
theorem readFile_of_found (found : reader.head key fileId = (.ok (head, fileKey), after))
    (content : HasContent head range) :
    reader.readFile key fileId range =
      ((after.link.stream fileId (some (contentRange head range))).1.map
          (contentAnswer head fileKey range),
        { after with link := (after.link.stream fileId (some (contentRange head range))).2 }) := by
  cases range with
  | none =>
    rw [readFile, decryptWhole, found]
    rfl
  | some range =>
    have full : ¬ (extentOf range head).isUnsatisfiable = true := by
      simp [hasContent_some.1 content]
    rw [readFile, decryptRange, found, contentRange]
    refine (if_neg full).trans ?_
    -- as a variable the exchange is left alone when the two sides are compared
    rcases after.link.stream fileId (some (extentOf range head).requestHeader) with ⟨chunks, link⟩
    rfl

theorem readFile_cases (reader : Reader) (key : MasterKey) (fileId : String)
    (range : Option ByteRange) :
    (∃ error after, reader.head key fileId = (.error error, after) ∧
      reader.readFile key fileId range = (.error error, after)) ∨
    ∃ head fileKey after, reader.head key fileId = (.ok (head, fileKey), after) ∧
      ((∃ asked, range = some asked ∧ (extentOf asked head).isUnsatisfiable = true ∧
          reader.readFile key fileId range =
            (.ok (unsatisfiable head (extentOf asked head)), after)) ∨
        HasContent head range ∧ reader.readFile key fileId range =
          ((after.link.stream fileId (some (contentRange head range))).1.map
              (contentAnswer head fileKey range),
            { after with
              link := (after.link.stream fileId (some (contentRange head range))).2 })) := by
  rcases found : reader.head key fileId with ⟨error | ⟨head, fileKey⟩, after⟩
  · exact .inl ⟨error, after, rfl, readFile_of_unfound found⟩
  refine .inr ⟨head, fileKey, after, rfl, ?_⟩
  by_cases content : HasContent head range
  · exact .inr ⟨content, readFile_of_found found content⟩
  · obtain ⟨asked, rfl, refused⟩ := not_hasContent content
    exact .inl ⟨asked, rfl, refused, readFile_of_refused found refused⟩

/-- What can be answered of a file that has been found. -/
inductive Answered (head : Head) (fileKey : Cipher.Key) :
    Option ByteRange → Response Vault.Error → Prop
  | refused {asked : ByteRange} (refused : (extentOf asked head).isUnsatisfiable = true) :
      Answered head fileKey (some asked) (unsatisfiable head (extentOf asked head))
  | content {range : Option ByteRange} (content : HasContent head range)
      (chunks : List (Except Vault.Error Bytes)) :
      Answered head fileKey range (contentAnswer head fileKey range chunks)

theorem answered_of_readFile {response : Response Vault.Error}
    (answered : (reader.readFile key fileId range).1 = .ok response) :
    ∃ head fileKey, (reader.head key fileId).1 = .ok (head, fileKey) ∧
      Answered head fileKey range response := by
  obtain ⟨error, after, -, read⟩ |
    ⟨head, fileKey, after, found, ⟨asked, rfl, refused, read⟩ | ⟨content, read⟩⟩ :=
    readFile_cases reader key fileId range
  · rw [read] at answered
    cases answered
  · rw [read] at answered
    obtain rfl := Except.ok.inj answered
    exact ⟨head, fileKey, congrArg Prod.fst found, .refused refused⟩
  · rw [read] at answered
    refine ⟨head, fileKey, congrArg Prod.fst found, ?_⟩
    cases streamed : (after.link.stream fileId (some (contentRange head range))).1 with
    | error error =>
      rw [streamed] at answered
      cases answered
    | ok chunks =>
      rw [streamed] at answered
      obtain rfl := Except.ok.inj answered
      exact .content content chunks

theorem answered_of_decrypt {request : Request} {response : Response Vault.Error}
    (answered : (reader.decrypt key request).1 = .ok response) :
    ∃ range head fileKey, Answered head fileKey range response := by
  obtain ⟨fault, failed⟩ | ⟨fileId, range, -, -, read⟩ := decrypt_cases reader key request
  · rw [failed] at answered
    cases answered
  · rw [read] at answered
    obtain ⟨head, fileKey, -, answered⟩ := answered_of_readFile answered
    exact ⟨range, head, fileKey, answered⟩

/-- What the reader is once a file has been read. -/
theorem readFile_snd (reader : Reader) (key : MasterKey) (fileId : String)
    (range : Option ByteRange) :
    (reader.readFile key fileId range).2 = (reader.head key fileId).2 ∨
      ∃ head fileKey after, reader.head key fileId = (.ok (head, fileKey), after) ∧
        (reader.readFile key fileId range).2 =
          { after with
            link := (after.link.stream fileId (some (contentRange head range))).2 } := by
  obtain ⟨error, after, failed, read⟩ | ⟨head, fileKey, after, found, ⟨_, -, -, read⟩ | ⟨-, read⟩⟩ :=
    readFile_cases reader key fileId range
  · exact .inl (by rw [failed, read])
  · exact .inl (by rw [found, read])
  · exact .inr ⟨head, fileKey, after, found, congrArg Prod.snd read⟩

end SealGate.Reader
