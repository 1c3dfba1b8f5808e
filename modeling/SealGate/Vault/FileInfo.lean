import SealGate.Json.Parser
import SealGate.Json.Printer
import SealGate.Json.Record
import SealGate.Vault.Error

/-! The metadata of a file: its name, content type and size, all optional. It stands at the start of
the plaintext as a two-byte little-endian length and a JSON record. -/

namespace SealGate.Vault

open Json

structure FileInfo where
  name : String
  contentType : String
  size : UInt64
  deriving DecidableEq

namespace FileInfo

def unnamed : FileInfo := ⟨"", "", 0⟩

/-- The longest record. -/
def maxLength : Nat := 32766

def toNode (info : FileInfo) : Node :=
  record [
    memberIf "n" (if info.name = "" then none else some (.ofText info.name)),
    memberIf "ct" (if info.contentType = "" then none else some (.ofText info.contentType)),
    memberIf "sz" (if info.size = 0 then none else some (.ofNat info.size.toNat))]

def ofNode? (node : Node) : Option FileInfo := do
  match ← node.fields? ["n", "ct", "sz"] with
  | [name, contentType, size] =>
    return ⟨← defaulted "" Node.text? name, ← defaulted "" Node.text? contentType,
      ← defaulted 0 Node.uint64? size⟩
  | _ => none

/-- The metadata at the start of a plaintext and the bytes it takes. -/
def split (plain : Bytes) : Except Error (FileInfo × Nat) :=
  if plain.length < 2 then .error (.corrupted .noMetadata)
  else
    let length := Bytes.littleEndian (plain.take 2)
    if maxLength < length ∨ plain.length < length + 2 then .error (.corrupted .metadataLength)
    else if length = 0 then .ok (unnamed, 2)
    else match (Node.ofBytes? ((plain.drop 2).take length)).bind ofNode? with
      | none => .error (.corrupted .metadataText)
      | some info => .ok (info, length + 2)

end FileInfo

end SealGate.Vault
