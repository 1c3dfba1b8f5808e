import SealGate.Json.Record

/-! Entries of the index: one file or directory, with what the index knows of it. -/

namespace SealGate.Vault

open Json

structure Entry where
  path : String
  isDir : Bool
  fileId : Option String
  date : Option String
  mimeType : Option String
  size : Option UInt64
  digest : Option Bytes
  deriving DecidableEq

namespace Entry

/-- A directory of which nothing but the name is known. -/
def directory (name : String) : Entry := ⟨name, true, none, none, none, none, none⟩

def toNode (entry : Entry) : Node :=
  record [
    member "path" (.ofText entry.path),
    memberIf "isDir" (if entry.isDir then some (.bool true) else none),
    memberIf "fileId" (entry.fileId.map .ofText),
    memberIf "date" (entry.date.map .ofText),
    memberIf "mimeType" (entry.mimeType.map .ofText),
    memberIf "size" (entry.size.map fun size => .ofNat size.toNat),
    memberIf "digest" (entry.digest.map .ofHex)]

def ofNode? (node : Node) : Option Entry := do
  match ← node.fields? ["path", "isDir", "fileId", "date", "mimeType", "size", "digest"] with
  | [path, isDir, fileId, date, mimeType, size, digest] =>
    return ⟨← required Node.text? path, ← defaulted false Node.bool? isDir,
      ← optional Node.text? fileId, ← optional Node.text? date, ← optional Node.text? mimeType,
      ← optional Node.uint64? size, ← optional Node.hex? digest⟩
  | _ => none

/-- A list of entries as an array. -/
def listNode (entries : List Entry) : Node := .array (entries.map toNode)

def listOfNode? : Node → Option (List Entry) := Node.list? ofNode?

end Entry

/-- The content of the index object. -/
structure IndexFile where
  files : List Entry
  deriving DecidableEq

namespace IndexFile

def toNode (index : IndexFile) : Node := record [member "files" (Entry.listNode index.files)]

def ofNode? (node : Node) : Option IndexFile := do
  match ← node.fields? ["files"] with
  | [files] => return ⟨← defaulted [] Entry.listOfNode? files⟩
  | _ => none

end IndexFile

end SealGate.Vault
