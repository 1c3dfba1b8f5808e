import SealGate.Number.Saturating
import SealGate.Text.Decimal

/-! From plaintext bytes to stored bytes. The plaintext of a file is its metadata followed by its
content, cut into packets of 64 KiB; a stored packet is 32 bytes longer, and the stored object
starts with a header. An extent is a requested piece of the content together with these sizes; it
tells which stored bytes hold the piece and how much of the first packet to skip. Sums and products
saturate. -/

namespace SealGate.Vault

open Number

/-- Plaintext bytes of a full packet. -/
def packetSize : Nat := 65536

/-- Stored bytes of a full packet. -/
def storedPacketSize : Nat := packetSize + 32

theorem packetSize_pos : 0 < packetSize := by decide

theorem storedPacketSize_pos : 0 < storedPacketSize := by decide

/-- A piece of a file's content with the sizes that place it in the stored object. Length 0 means to
the end until the file size is set. -/
structure Extent where
  start : UInt64
  length : UInt64
  headerOffset : UInt64
  metadataOffset : UInt64
  fileSize : UInt64
  deriving DecidableEq

namespace Extent

/-- The extent of a request, before the file is known. -/
def ofRequest (start length : UInt64) : Extent := ⟨start, length, 0, 0, 0⟩

/-- Sets the file size and confines the extent to the file. -/
def setFileSize (e : Extent) (size : UInt64) : Extent :=
  if size = 0 then { e with start := 0, length := 0, fileSize := 0 }
  else if size < e.start then { e with start := size, length := 0, fileSize := size }
  else if e.length = 0 ∨ size - e.start < e.length then
    { e with length := size - e.start, fileSize := size }
  else { e with fileSize := size }

/-- The first packet to fetch. -/
def firstPacket (e : Extent) : UInt64 := satAdd e.start e.metadataOffset / 65536

/-- One past the last packet to fetch. -/
def endPacket (e : Extent) : UInt64 :=
  satAdd (satAdd e.start e.length) e.metadataOffset / 65536 + 1

/-- The place of a packet in the stored object. -/
def storedOffset (e : Extent) (packet : UInt64) : UInt64 :=
  satAdd (satMul packet 65568) e.headerOffset

def firstByte (e : Extent) : UInt64 := e.storedOffset e.firstPacket

/-- One past the last stored byte to fetch. -/
def endByte (e : Extent) : UInt64 := e.storedOffset e.endPacket

/-- Plaintext bytes of the first packet that come before the piece. -/
def skip (e : Extent) : UInt64 := satAdd e.start e.metadataOffset % 65536

/-- The piece starts at or behind the end of the file. -/
def isUnsatisfiable (e : Extent) : Bool := e.fileSize ≤ e.start

def numeral (n : UInt64) : String := Text.Decimal.render n.toNat

/-- The `Range` header that fetches the stored bytes. -/
def requestHeader (e : Extent) : String :=
  "bytes=" ++ numeral e.firstByte ++ "-" ++ numeral (e.endByte - 1)

def total (e : Extent) : String := if e.fileSize = 0 then "*" else numeral e.fileSize

/-- The `Content-Range` header of the answer. A piece with no last byte names the size alone. -/
def responseHeader (e : Extent) : String :=
  let stop := satAdd e.start e.length
  if stop = 0 then "bytes */" ++ e.total
  else "bytes " ++ numeral e.start ++ "-" ++ numeral (stop - 1) ++ "/" ++ e.total

/-- A diagnostic line with all five fields. -/
def describe (e : Extent) : String :=
  "RequestRange\x7bStart: " ++ numeral e.start ++ ", Length: " ++ numeral e.length ++
    ", FileSize: " ++ numeral e.fileSize ++ ", HeaderOffset: " ++ numeral e.headerOffset ++
    ", MetadataOffset: " ++ numeral e.metadataOffset ++ "\x7d"

end Extent

end SealGate.Vault
