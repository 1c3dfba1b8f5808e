import SealGate.Json.Record

/-! What the gateway tells of one file: the folder it lies in, what is sealed in the file, and what
only the index knows. -/

namespace SealGate.Gateway

open Json

structure FileDetails where
  fileId : String
  folder : String
  name : String
  date : Option String
  mimeType : Option String
  size : Option UInt64
  digest : Option Bytes
  deriving DecidableEq

namespace FileDetails

def toNode (details : FileDetails) : Node :=
  record [
    member "fileId" (.ofText details.fileId),
    member "folder" (.ofText details.folder),
    member "name" (.ofText details.name),
    memberIf "date" (details.date.map .ofText),
    memberIf "mimeType" (details.mimeType.map .ofText),
    memberIf "size" (details.size.map fun size => .ofNat size.toNat),
    memberIf "digest" (details.digest.map .ofHex)]

def ofNode? (node : Node) : Option FileDetails := do
  match ← node.fields? ["fileId", "folder", "name", "date", "mimeType", "size", "digest"] with
  | [fileId, folder, name, date, mimeType, size, digest] =>
    return ⟨← required Node.text? fileId, ← required Node.text? folder, ← required Node.text? name,
      ← optional Node.text? date, ← optional Node.text? mimeType, ← optional Node.uint64? size,
      ← optional Node.hex? digest⟩
  | _ => none

end FileDetails

end SealGate.Gateway
