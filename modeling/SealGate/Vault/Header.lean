import SealGate.Cipher.SealedBox
import SealGate.Json.Parser
import SealGate.Json.Printer
import SealGate.Json.Record
import SealGate.Vault.Error

/-! The header of a stored object: a two-byte little-endian length and a JSON record with the format
version and the file key, sealed under the master key. A header takes at most 256 bytes. -/

namespace SealGate.Vault

open Json

/-- A master key as it was given or unsealed; only 32 bytes make a usable one. -/
structure MasterKey where
  bytes : Bytes
  deriving DecidableEq

namespace MasterKey

/-- A text that tells the length of a key and nothing of its bytes. -/
def describe (key : MasterKey) : String :=
  "KeyMaterial([REDACTED; " ++ Text.Decimal.render key.bytes.length ++ "])"

end MasterKey

structure Header where
  version : UInt16
  /-- Bytes the header takes, the length included. -/
  length : Nat
  wrappedKey : Bytes
  deriving DecidableEq

namespace Header

def maxLength : Nat := 256

def maxVersion : UInt16 := 2

/-- The record behind the length. -/
def recordNode (version : UInt16) (wrappedKey : Bytes) : Node :=
  record [member "v" (.ofNat version.toNat), member "k" (.ofHex wrappedKey)]

def readRecord? (node : Node) : Option (UInt16 × Bytes) := do
  match ← node.fields? ["v", "k"] with
  | [v, k] => return (← required Node.uint16? v, ← required Node.hex? k)
  | _ => none

/-- The header at the start of an object. -/
def parse (data : Bytes) : Except Error Header :=
  if data.length < 3 then .error (.corrupted .inputEnded)
  else
    let length := Bytes.littleEndian (data.take 2)
    if length = 0 ∨ maxLength < length + 2 ∨ data.length < length + 2 then
      .error (.corrupted .headerLength)
    else match (Node.ofBytes? ((data.drop 2).take length)).bind readRecord? with
      | none => .error (.corrupted .headerText)
      | some (version, wrappedKey) =>
        if maxVersion < version then .error (.corrupted (.headerVersion version))
        else if wrappedKey = [] then .error (.corrupted .emptyWrappedKey)
        else .ok ⟨version, length + 2, wrappedKey⟩

/-- The file key of an object, unsealed with the master key. -/
def unwrap (header : Header) (master : MasterKey) : Except Error Cipher.Key :=
  match Cipher.Key.ofBytes? master.bytes with
  | none => .error (.corrupted .masterKeyLength)
  | some key =>
    match Cipher.SealedBox.open? key header.wrappedKey with
    | none => .error (.corrupted .wrappedKey)
    | some content =>
      match Cipher.Key.ofBytes? content with
      | none => .error (.corrupted .fileKeyLength)
      | some fileKey => .ok fileKey

end Header

end SealGate.Vault
