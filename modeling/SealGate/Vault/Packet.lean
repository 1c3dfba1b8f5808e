import SealGate.Cipher.Gcm
import SealGate.Vault.Error
import SealGate.Vault.Extent

/-! Stored packets. A packet is sixteen bytes of header and the sealed payload. The header holds the
format bytes, the payload length less one, the sequence number and eight random bytes; its last
twelve are the nonce and its first four are authenticated with the payload. A packet opens only at
the place its sequence number names. -/

namespace SealGate.Vault.Packet

open Cipher

def headerLength : Nat := 16

/-- The plaintext of the packet with the given sequence number. -/
def decode (stored : Bytes) (key : Key) (sequence : Nat) : Except Error Bytes :=
  if 2 ^ 32 ≤ sequence then .error (.corrupted .sequenceOverflow)
  else if stored.length ≤ 32 then .error (.corrupted .truncatedPacket)
  else if stored.take 2 ≠ [0x20, 0] then .error (.corrupted .packetFormat)
  else if (stored.drop 16).length ≠ Bytes.littleEndian ((stored.drop 2).take 2) + 1 + 16 then
    .error (.corrupted .packetLength)
  else if Bytes.littleEndian ((stored.drop 4).take 4) ≠ sequence then
    .error (.corrupted .packetSequence)
  else match Gcm.decrypt? key ((stored.drop 4).take 12) (stored.take 4) (stored.drop 16) with
    | none => .error (.corrupted .packetAuthentication)
    | some plain => .ok plain

/-- The plaintexts of consecutive packets, up to the first one that does not open. -/
def decodeFrom (key : Key) : (sequence : Nat) → List Bytes → Except Error Bytes
  | _, [] => .ok []
  | sequence, stored :: rest => do
    let plain ← decode stored key sequence
    let behind ← decodeFrom key (sequence + 1) rest
    return plain ++ behind

/-- The plaintext of a run of stored packets, the first of which has the given sequence number. -/
def decodeAll (stored : Bytes) (key : Key) (sequence : Nat) : Except Error Bytes :=
  decodeFrom key sequence (Bytes.chunks storedPacketSize stored)

/-- The header of a packet that holds `size` plaintext bytes. -/
def header (size sequence : Nat) (random : Bytes) : Bytes :=
  [0x20, 0] ++ Bytes.ofLittleEndian 2 (size - 1) ++ Bytes.ofLittleEndian 4 sequence ++ random

/-- The stored form of a packet. -/
def encode (plain : Bytes) (key : Key) (sequence : Nat) (random : Bytes) : Bytes :=
  let head := header plain.length sequence random
  head ++ Gcm.encrypt key ((head.drop 4).take 12) (head.take 4) plain

end SealGate.Vault.Packet
