import SealGate.Vault.FileInfo
import SealGate.Vault.Header
import SealGate.Vault.Packet

/-! Opening a stored object: as a whole, or only as far as its metadata. -/

namespace SealGate.Vault

/-- An object opened as a whole. -/
structure StoredFile where
  header : Header
  info : FileInfo
  /-- Bytes the metadata takes in the plaintext. -/
  infoLength : Nat
  content : Bytes

/-- What has to be known of an object before its content can be read. -/
structure Head where
  header : Header
  info : FileInfo
  infoLength : Nat
  deriving DecidableEq

/-- Opens the header, every packet and the metadata. -/
def StoredFile.decode (data : Bytes) (master : MasterKey) : Except Error StoredFile := do
  let header ← Header.parse data
  let key ← header.unwrap master
  let plain ← Packet.decodeAll (data.drop header.length) key 0
  let (info, infoLength) ← FileInfo.split plain
  return ⟨header, info, infoLength, plain.drop infoLength⟩

/-- Opens the header and the first packet, which always holds the whole metadata. -/
def Head.decode (data : Bytes) (master : MasterKey) : Except Error (Head × Cipher.Key) := do
  let header ← Header.parse data
  let key ← header.unwrap master
  let first ← Packet.decode ((data.drop header.length).take storedPacketSize) key 0
  let (info, infoLength) ← FileInfo.split first
  return (⟨header, info, infoLength⟩, key)

end SealGate.Vault
