import SealGate.Reader.Index
import SealGate.Reader.Recent
import SealGate.Reader.Window
import SealGate.Vault.KeySlot

/-! The reader of a repository. It fetches stored objects over the link, opens them with the master
key it is given, and answers requests for files in whole or in part. The heads of files are kept in
a cache; a cached head is given only to a key that unwraps its file key. -/

namespace SealGate

open Http Vault Origin Reader

structure Reader where
  link : Link
  heads : Recent Head

/-- What is sealed in a file about itself; absent means unknown. -/
structure Reader.FileFacts where
  name : String
  mimeType : Option String
  size : Option UInt64
  deriving DecidableEq

namespace Reader

def ofLink (link : Link) : Reader := ⟨link, .withCapacity Recent.defaultCapacity⟩

/-- The range that holds the header and the first packet of any object. -/
def headRange : String := "bytes=0-" ++ Text.Decimal.render (storedPacketSize + Header.maxLength)

/-- The head and the file key of a file, from the cache or the origin. -/
def head (key : MasterKey) (fileId : String) (reader : Reader) :
    Except Vault.Error (Head × Cipher.Key) × Reader :=
  match reader.heads.get fileId with
  | (some head, heads) =>
    ((head.header.unwrap key).map fun fileKey => (head, fileKey), { reader with heads := heads })
  | (none, _) =>
    let (data, link) := reader.link.fetch fileId (some headRange)
    let reader := { reader with link := link }
    match data.bind fun data => Head.decode data key with
    | .error error => (.error error, reader)
    | .ok (head, fileKey) =>
      (.ok (head, fileKey), { reader with heads := reader.heads.put fileId head })

/-! ### The names of files -/

def isHexDigit (c : Char) : Bool := (Text.Hex.digitValue? c).isSome

/-- A number of hexadecimal digits and what follows them. -/
def afterHex? : Nat → List Char → Option (List Char)
  | 0, text => some text
  | n + 1, c :: text => if isHexDigit c then afterHex? n text else none
  | _ + 1, [] => none

/-- Groups of hexadecimal digits with a hyphen between neighbours. -/
def isGroups : List Nat → List Char → Bool
  | [], text => text.isEmpty
  | [n], text => afterHex? n text = some []
  | n :: groups, text =>
    match afterHex? n text with
    | some ('-' :: rest) => isGroups groups rest
    | _ => false

/-- The form of a file id, in either case. -/
def isFileId (text : List Char) : Bool := isGroups [8, 4, 4, 4, 12] text

/-- Drops a leading piece, if it is there. -/
def dropLead (lead text : List Char) : List Char := (Text.after? lead text).getD text

/-- The file id of a request path, in which the slash in front and the word `raw` may be missing. -/
def fileId? (path : String) : Option String :=
  let text := dropLead "raw".toList (dropLead ['/'] path.toList)
  ((Text.after? "file/".toList text).filter isFileId).map String.ofList

/-! ### The headers of an answer -/

/-- Bytes of a header value that can be read as text. -/
def isTextByte (b : UInt8) : Bool := (32 ≤ b.toNat && b.toNat < 127) || b.toNat = 9

/-- A header value, or another one if it has bytes that no value may have. -/
def valueOr (fallback : String) (value : String) : Bytes :=
  if (Bytes.ofText value).all Headers.isValueByte then Bytes.ofText value else Bytes.ofText fallback

def defaultContentType : String := "application/octet-stream"

def contentType (info : FileInfo) : Bytes :=
  valueOr defaultContentType
    (if info.contentType = "" then defaultContentType else info.contentType)

def isControl (c : Char) : Bool := c.toNat < 32 || (127 ≤ c.toNat && c.toNat < 160)

/-- A file name without the characters that would end or break its quotes. -/
def shownName (name : String) : List Char := name.toList.filter fun c => c ≠ '"' ∧ ¬ isControl c

def disposition (info : FileInfo) : Bytes :=
  let name := shownName info.name
  valueOr "inline" (if name = [] then "inline"
    else "inline; filename=\"" ++ String.ofList name ++ "\"")

def contentHeaders (info : FileInfo) : Headers :=
  [("content-type", contentType info), ("content-disposition", disposition info)]

def number (n : Nat) : Bytes := Bytes.ofText (Text.Decimal.render n)

/-! ### Answers -/

/-- A file in whole: its declared size, or all of its content if it declares none. -/
def decryptWhole (key : MasterKey) (fileId : String) (reader : Reader) :
    Except Vault.Error (Response Vault.Error) × Reader :=
  match reader.head key fileId with
  | (.error error, reader) => (.error error, reader)
  | (.ok (head, fileKey), reader) =>
    let length := if head.info.size = 0 then none else some head.info.size.toNat
    let window : Window := ⟨0, head.infoLength, length⟩
    let range := "bytes=" ++ Text.Decimal.render head.header.length ++ "-"
    let (chunks, link) := reader.link.stream fileId (some range)
    (chunks.map fun chunks =>
      { status := 200
        headers := contentHeaders head.info ++
          (length.map fun n => ("content-length", number n)).toList ++
          [("accept-ranges", Bytes.ofText "bytes")]
        body := .streamed (window.read fileKey chunks) },
      { reader with link := link })

/-- The extent of a requested range in a file. -/
def extentOf (range : ByteRange) (head : Head) : Extent :=
  { Extent.ofRequest range.start range.length with
    headerOffset := UInt64.ofNat head.header.length
    metadataOffset := UInt64.ofNat head.infoLength }.setFileSize head.info.size

/-- The answer to a range that starts behind the end of the file. -/
def unsatisfiable (head : Head) (extent : Extent) : Response Vault.Error :=
  { status := 416
    headers := contentHeaders head.info ++
      [("content-range", Bytes.ofText ("bytes */" ++ Text.Decimal.render extent.fileSize.toNat))]
    body := .empty }

/-- The answer with the wanted piece of a run of stored chunks. -/
def partialContent (head : Head) (fileKey : Cipher.Key) (extent : Extent)
    (chunks : List (Except Vault.Error Bytes)) : Response Vault.Error :=
  let window : Window := ⟨extent.firstPacket.toNat, extent.skip.toNat, some extent.length.toNat⟩
  { status := 206
    headers := contentHeaders head.info ++ [("content-length", number extent.length.toNat),
      ("content-range", Bytes.ofText extent.responseHeader)]
    body := .streamed (window.read fileKey chunks) }

/-- A range of a file. -/
def decryptRange (key : MasterKey) (fileId : String) (range : ByteRange) (reader : Reader) :
    Except Vault.Error (Response Vault.Error) × Reader :=
  match reader.head key fileId with
  | (.error error, reader) => (.error error, reader)
  | (.ok (head, fileKey), reader) =>
    let extent := extentOf range head
    if extent.isUnsatisfiable then (.ok (unsatisfiable head extent), reader)
    else
      let (chunks, link) := reader.link.stream fileId (some extent.requestHeader)
      (chunks.map (partialContent head fileKey extent), { reader with link := link })

/-- The range that a request asks for. -/
def requestedRange (request : Request) : Except RangeFault (Option ByteRange) :=
  match request.headers.get? "range" with
  | none => .ok none
  | some value =>
    if value.all isTextByte then
      (ByteRange.parseChars (value.map fun b => Char.ofNat b.toNat)).mapError .range
    else .error .notText

/-- Fetches and decrypts the file that a request names. -/
def decrypt (key : MasterKey) (request : Request) (reader : Reader) :
    Except Vault.Error (Response Vault.Error) × Reader :=
  match fileId? request.path with
  | none => (.error (.invalidRequest .noFileId), reader)
  | some fileId =>
    match requestedRange request with
    | .error fault => (.error (.invalidRequest (.rangeHeader fault)), reader)
    | .ok none => reader.decryptWhole key fileId
    | .ok (some range) => reader.decryptRange key fileId range

def facts (key : MasterKey) (fileId : String) (reader : Reader) :
    Except Vault.Error FileFacts × Reader :=
  let (result, reader) := reader.head key fileId
  (result.map fun (head, _) =>
    ⟨head.info.name, if head.info.contentType = "" then none else some head.info.contentType,
      if head.info.size = 0 then none else some head.info.size⟩, reader)

def repositoryName : String := "_info.json"

/-- The repository in a stored object. -/
def repositoryOf (data : Bytes) : Except Vault.Error Repository :=
  match (Json.Node.ofBytes? data).bind Repository.ofNode? with
  | none => .error (.corrupted .repositoryText)
  | some repository => .ok repository

/-- Unlocks the repository with a passphrase. -/
def unlock (passphrase : String) (reader : Reader) : Except Vault.Error UnlockedKey × Reader :=
  let (data, link) := reader.link.fetch repositoryName none
  (do (← repositoryOf (← data)).unlock passphrase, { reader with link := link })

/-- Drops every cached head. -/
def forget (reader : Reader) : Reader := { reader with heads := reader.heads.clear }

end Reader

end SealGate
