import SealGate.Proofs.Vault.Framing
import SealGate.Proofs.Vault.Head
import SealGate.Proofs.Vault.Sealing

/-! Stored objects as they are made: a header with the wrapped file key, and behind it the packets
of a plaintext of metadata and content. Such an object opens with the master key to the metadata and
the content that went into it. -/

namespace SealGate.Vault

open Json Cipher

/-- What goes into a stored object: the keys, the nonce of the sealed file key and the random bytes
of the packets, the metadata and the content. -/
structure Sealing where
  master : Key
  key : Key
  nonce : Bytes
  random : Nat → Bytes
  info : FileInfo
  content : Bytes

namespace Sealing

variable (sealing : Sealing)

/-- The record in the header of the object. -/
def headerNode : Node :=
  Header.recordNode Header.maxVersion
    (SealedBox.close sealing.master sealing.nonce sealing.key.bytes)

/-- The stored object. -/
def object : Bytes :=
  framed sealing.headerNode ++
    Packet.encodeAll (framed sealing.info.toNode ++ sealing.content) sealing.key sealing.random

/-- The object as it is when it has been opened. -/
def file : StoredFile where
  header := ⟨Header.maxVersion, sealing.headerNode.toBytes.length + 2,
    SealedBox.close sealing.master sealing.nonce sealing.key.bytes⟩
  info := sealing.info
  infoLength := sealing.info.toNode.toBytes.length + 2
  content := sealing.content

/-- What is asked of a sealing: nonce and random bytes have their lengths, the metadata is not too
long, and there are no more packets than can be numbered. -/
structure Fits : Prop where
  nonce : sealing.nonce.length = 12
  random : ∀ place, (sealing.random place).length = 8
  info : sealing.info.toNode.toBytes.length ≤ FileInfo.maxLength
  content : (framed sealing.info.toNode ++ sealing.content).length ≤ packetSize * 2 ^ 32

variable {sealing}

/-- A content of up to four gigabytes has fewer packets than can be numbered. -/
theorem Fits.of_short (nonce : sealing.nonce.length = 12)
    (random : ∀ place, (sealing.random place).length = 8)
    (info : sealing.info.toNode.toBytes.length ≤ FileInfo.maxLength)
    (few : sealing.content.length ≤ 2 ^ 32) : sealing.Fits := by
  refine ⟨nonce, random, info, ?_⟩
  have most : FileInfo.maxLength = 32766 := rfl
  have size : packetSize = 65536 := rfl
  rw [List.length_append, length_framed]
  omega

theorem unwrap_file (fits : sealing.Fits) :
    sealing.file.header.unwrap ⟨sealing.master.bytes⟩ = .ok sealing.key := by
  have opened := SealedBox.open?_close sealing.master sealing.nonce sealing.key.bytes fits.nonce
  have own : sealing.file.header.wrappedKey =
      SealedBox.close sealing.master sealing.nonce sealing.key.bytes := rfl
  simp only [Header.unwrap, own, Key.ofBytes?_eq_some_iff.2 rfl, opened]

theorem parse_object (fits : sealing.Fits) :
    Header.parse sealing.object = .ok sealing.file.header := by
  have some : SealedBox.close sealing.master sealing.nonce sealing.key.bytes ≠ [] := by
    have nonce := fits.nonce
    refine List.ne_nil_of_length_pos ?_
    rw [SealedBox.length_close]
    omega
  refine Header.parse_framed (UInt16.le_refl _) some ?_ _
  have most : Header.maxLength = 256 := rfl
  have box : (SealedBox.close sealing.master sealing.nonce sealing.key.bytes).length = 60 := by
    have nonce := fits.nonce
    have key := sealing.key.length_eq
    rw [SealedBox.length_close]
    omega
  rw [Header.length_recordNode, box]
  omega

/-- What was sealed opens with the master key. -/
theorem decode_object (fits : sealing.Fits) :
    StoredFile.decode sealing.object ⟨sealing.master.bytes⟩ = .ok sealing.file := by
  have length : sealing.file.header.length = (framed sealing.headerNode).length :=
    (length_framed sealing.headerNode).symm
  have plain := length_framed sealing.info.toNode
  refine StoredFile.decode_ok_iff.2 ⟨sealing.key, framed sealing.info.toNode ++ sealing.content,
    parse_object fits, unwrap_file fits, ?_, FileInfo.split_framed _ fits.info _, ?_⟩
  · rw [length, object, List.drop_left]
    exact Packet.decodeAll_encodeAll _ fits.random fits.content
  · exact List.drop_left' plain

end Sealing

end SealGate.Vault
