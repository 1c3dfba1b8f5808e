import SealGate.Vault.Header
import SealGate.Text.Quoted

/-! Key slots. The repository keeps its master key once per passphrase, sealed under a key derived
from the passphrase and the slot's salt. A passphrase unlocks the first slot it opens. -/

namespace SealGate.Vault

open Json

structure KeySlot where
  keyId : String
  salt : Bytes
  wrappedKey : Bytes
  deriving DecidableEq

/-- The public description of a repository. -/
structure Repository where
  version : UInt16
  slots : List KeySlot
  deriving DecidableEq

/-- A master key and the id of the slot it came from. -/
structure UnlockedKey where
  key : MasterKey
  keyId : String
  deriving DecidableEq

namespace KeySlot

def toNode (slot : KeySlot) : Node :=
  record [member "keyId" (.ofText slot.keyId), member "salt" (.ofHex slot.salt),
    member "wrappedKey" (.ofHex slot.wrappedKey)]

def ofNode? (node : Node) : Option KeySlot := do
  match ← node.fields? ["keyId", "salt", "wrappedKey"] with
  | [keyId, salt, wrappedKey] =>
    return ⟨← required Node.text? keyId, ← required Node.hex? salt, ← required Node.hex? wrappedKey⟩
  | _ => none

/-- The master key in a slot that a passphrase opens: the salt is long enough, the box opens, and it
holds 32 bytes. -/
def open? (slot : KeySlot) (passphrase : String) : Option Cipher.Key := do
  let key ← Cipher.SealedBox.passphraseKey? passphrase slot.salt
  let content ← Cipher.SealedBox.open? key slot.wrappedKey
  Cipher.Key.ofBytes? content

end KeySlot

namespace Repository

def supportedVersion : UInt16 := 1

def toNode (info : Repository) : Node :=
  record [member "version" (.ofNat info.version.toNat),
    member "keys" (.array (info.slots.map KeySlot.toNode))]

def ofNode? (node : Node) : Option Repository := do
  match ← node.fields? ["version", "keys"] with
  | [version, slots] =>
    return ⟨← required Node.uint16? version, ← defaulted [] (Node.list? KeySlot.ofNode?) slots⟩
  | _ => none

/-- The first slot that a passphrase opens. -/
def unlock (info : Repository) (passphrase : String) : Except Error UnlockedKey :=
  if info.version ≠ supportedVersion then .error (.corrupted (.repositoryVersion info.version))
  else
    let opened := info.slots.findSome? fun slot =>
      (slot.open? passphrase).map fun key => UnlockedKey.mk ⟨key.bytes⟩ slot.keyId
    match opened with
    | some unlocked => .ok unlocked
    | none => .error .invalidPassphrase

end Repository

/-- A text that names the key and hides its bytes. -/
def UnlockedKey.describe (unlocked : UnlockedKey) : String :=
  "UnlockedKey \x7b key: " ++ unlocked.key.describe ++ ", key_id: " ++
    Text.quoted unlocked.keyId ++ " \x7d"

end SealGate.Vault
