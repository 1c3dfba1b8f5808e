import SealGate.Proofs.Outcome
import SealGate.Proofs.Vault.Sealing

/-! Runs of packets put together. A run that is cut behind a whole number of packets opens as its
two parts do, one behind the other; so the place of a packet in the stored run alone tells the place
of its plaintext. The places of a run are counted in 64 bits. The count cannot run over, since a
packet opens only below 2^32 and nothing is counted behind one that does not open. -/

namespace SealGate.Vault.Packet

open Cipher Outcome

variable {key : Key}

/-! ### Cuts between packets -/

/-- A packet alone, full or short, is a run. -/
theorem decodeAll_single {stored : Bytes} (some : stored ≠ [])
    (fits : stored.length ≤ storedPacketSize) (first : Nat) :
    decodeAll stored key first = decode stored key first := by
  rw [decodeAll, Bytes.chunks_of_le storedPacketSize_pos some fits, decodeFrom, decodeFrom]
  cases decode stored key first with
  | error error => rfl
  | ok plain => exact congrArg Except.ok (List.append_nil plain)

/-- A run that is cut behind a whole number of packets opens part by part. -/
theorem decodeAll_append {front : Bytes} (whole : storedPacketSize ∣ front.length) (back : Bytes)
    (first : Nat) :
    decodeAll (front ++ back) key first = do
      let plain ← decodeAll front key first
      let behind ← decodeAll back key (first + front.length / storedPacketSize)
      return plain ++ behind := by
  rw [decodeAll, Bytes.chunks_append_of_dvd storedPacketSize_pos whole, decodeFrom_append,
    Bytes.length_chunks, Bytes.chunkCount_of_dvd storedPacketSize_pos whole]
  rfl

/-- What a run of packets holds that opens to a plaintext: every packet the piece of the plaintext
at its place, every packet but the last a full piece, and all of them 32 bytes more than that. -/
structure Holds (stored plain : Bytes) (key : Key) (first : Nat) : Prop where
  length : plain.length + 32 * Bytes.chunkCount storedPacketSize stored = stored.length
  opens : ∀ packet < Bytes.chunkCount storedPacketSize stored,
    decode ((stored.drop (storedPacketSize * packet)).take storedPacketSize) key (first + packet) =
      .ok ((plain.drop (packetSize * packet)).take packetSize)
  full : ∀ packet, packet + 1 < Bytes.chunkCount storedPacketSize stored →
    ((plain.drop (packetSize * packet)).take packetSize).length = packetSize
  places : stored ≠ [] → first + Bytes.chunkCount storedPacketSize stored ≤ 2 ^ 32

theorem holds_of_decodeAll {stored plain : Bytes} {first : Nat}
    (h : decodeAll stored key first = .ok plain) : Holds stored plain key first where
  length := length_of_decodeAll h
  opens packet held := decode_slice h ((Bytes.lt_chunkCount_iff storedPacketSize_pos).1 held)
  full packet next := by
    have behind := (Bytes.lt_chunkCount_iff storedPacketSize_pos).1 next
    rw [Nat.mul_succ] at behind
    have held : storedPacketSize * packet < stored.length := by omega
    have piece : ((stored.drop (storedPacketSize * packet)).take storedPacketSize).length =
        storedPacketSize := List.length_take_of_le (by rw [List.length_drop]; omega)
    have length := (of_decode (decode_slice h held)).2.2
    have size : storedPacketSize = packetSize + 32 := rfl
    omega
  places := place_le_of_decodeAll h

/-! ### Places counted in 64 bits -/

/-- The place that comes a number of packets behind the first one, unless the count runs over. -/
def place? (first : UInt64) (index : Nat) : Option UInt64 :=
  if first.toNat + index < 2 ^ 64 then some (first + .ofNat index) else none

theorem place?_of_lt {first : UInt64} {index : Nat} (fits : first.toNat + index < 2 ^ 64) :
    ∃ place, place? first index = some place ∧ place.toNat = first.toNat + index := by
  refine ⟨first + .ofNat index, by rw [place?, if_pos fits], ?_⟩
  rw [UInt64.toNat_add, UInt64.toNat_ofNat', Nat.add_mod_mod, Nat.mod_eq_of_lt fits]

/-- Opens packets from the one with the given index on, or has no result if a place runs over. -/
def decodeFromCounted (key : Key) (first : UInt64) :
    (index : Nat) → List Bytes → ExceptT Error Option Bytes
  | _, [] => pure []
  | index, stored :: rest => do
    let place ← place? first index
    let plain ← decode stored key place.toNat
    let behind ← decodeFromCounted key first (index + 1) rest
    return plain ++ behind

/-- Opens a run of packets, or has no result if a place runs over. -/
def decodeAllCounted (stored : Bytes) (key : Key) (first : UInt64) : ExceptT Error Option Bytes :=
  decodeFromCounted key first 0 (Bytes.chunks storedPacketSize stored)

theorem run_decodeFromCounted {first : UInt64} {index : Nat}
    (fits : first.toNat + index < 2 ^ 64) (pieces : List Bytes) :
    (decodeFromCounted key first index pieces).run =
      some (decodeFrom key (first.toNat + index) pieces) := by
  induction pieces generalizing index with
  | nil => rfl
  | cons stored rest ih =>
    obtain ⟨place, counted, value⟩ := place?_of_lt fits
    rw [decodeFromCounted, run_bind_of_some counted, value, decodeFrom]
    refine run_bind rfl fun plain opened => ?_
    -- The packet has opened, so its place is far from the end of the count.
    have small := (of_decode opened).1
    have fits : first.toNat + (index + 1) < 2 ^ 64 := by omega
    exact run_bind (ih fits) fun behind _ => rfl

theorem run_decodeAllCounted (stored : Bytes) (first : UInt64) :
    (decodeAllCounted stored key first).run = some (decodeAll stored key first.toNat) :=
  run_decodeFromCounted first.toNat_lt _

/-! ### The last two places -/

/-- A packet that was sealed is a run at its own place. -/
theorem decodeAll_encode {plain random : Bytes} (some : plain ≠ [])
    (fits : plain.length ≤ packetSize) (eight : random.length = 8) {sequence : Nat}
    (small : sequence < 2 ^ 32) :
    decodeAll (encode plain key sequence random) key sequence = .ok plain := by
  have length : (encode plain key sequence random).length = plain.length + 32 :=
    length_encode key eight
  have size : storedPacketSize = packetSize + 32 := rfl
  rw [decodeAll_single (List.ne_nil_of_length_pos (by omega)) (by omega),
    decode_encode key some fits eight small small, if_pos rfl]

def lastKey : Key := ⟨List.replicate 32 9, rfl⟩

/-- A full packet at the last place but one. -/
def fullPacket : Bytes :=
  encode (List.replicate packetSize 7) lastKey (2 ^ 32 - 2) (List.replicate 8 0)

/-- A short packet at the last place. -/
def lastPacket : Bytes := encode [1, 2, 3] lastKey (2 ^ 32 - 1) (List.replicate 8 0)

theorem length_fullPacket : fullPacket.length = storedPacketSize := by
  rw [fullPacket, length_encode lastKey List.length_replicate, List.length_replicate,
    storedPacketSize]

theorem opens_fullPacket :
    decodeAll fullPacket lastKey (2 ^ 32 - 2) = .ok (List.replicate packetSize 7) :=
  decodeAll_encode (List.ne_nil_of_length_pos (by rw [List.length_replicate]; decide))
    (Nat.le_of_eq List.length_replicate) List.length_replicate (by decide)

theorem opens_lastPacket : decodeAll lastPacket lastKey (2 ^ 32 - 1) = .ok [1, 2, 3] :=
  decodeAll_encode (by simp) (by decide) List.length_replicate (by decide)

/-! ### Runs -/

/-- Opening respects the cuts between packets, wherever a run begins: a run that is cut behind a
whole number of them fails with the first failure of its front part, if there is one, and otherwise
opens to the plaintext of the front part followed by what the back part gives at its own place. A
run that opens holds its plaintext packet by packet, and whether it opens or not, none of the places
that are counted runs over 64 bits. -/
theorem decodeAll_respects_packets (key : Key) (first : UInt64) :
    (∀ front back : Bytes, storedPacketSize ∣ front.length →
      decodeAll (front ++ back) key first.toNat = do
        let plain ← decodeAll front key first.toNat
        let behind ← decodeAll back key (first.toNat + front.length / storedPacketSize)
        return plain ++ behind) ∧
    (∀ stored plain, decodeAll stored key first.toNat = .ok plain →
      Holds stored plain key first.toNat) ∧
    ∀ stored, (decodeAllCounted stored key first).run = some (decodeAll stored key first.toNat) := by
  refine ⟨?_, ?_, ?_⟩
  · intro front back whole
    exact decodeAll_append whole back first.toNat
  · intro stored plain opened
    exact holds_of_decodeAll opened
  · intro stored
    exact run_decodeAllCounted stored first

/-- A run of a full packet and a short one that takes the last two places that there are. -/
theorem decodeAll_respects_packets_of_last :
    storedPacketSize ∣ fullPacket.length ∧
    decodeAll (fullPacket ++ lastPacket) lastKey (4294967294 : UInt64).toNat =
      .ok (List.replicate packetSize 7 ++ [1, 2, 3]) ∧
    Holds (fullPacket ++ lastPacket) (List.replicate packetSize 7 ++ [1, 2, 3]) lastKey
      (4294967294 : UInt64).toNat := by
  obtain ⟨joins, holds, -⟩ := decodeAll_respects_packets lastKey 4294967294
  have whole : storedPacketSize ∣ fullPacket.length :=
    ⟨1, length_fullPacket⟩
  have first : (4294967294 : UInt64).toNat = 2 ^ 32 - 2 := rfl
  have one : fullPacket.length / storedPacketSize = 1 := by
    rw [length_fullPacket, Nat.div_self storedPacketSize_pos]
  have next : 2 ^ 32 - 2 + 1 = 2 ^ 32 - 1 := rfl
  have opened : decodeAll (fullPacket ++ lastPacket) lastKey (4294967294 : UInt64).toNat =
      .ok (List.replicate packetSize 7 ++ [1, 2, 3]) := by
    rw [joins _ lastPacket whole, first, one, next, opens_fullPacket, opens_lastPacket]
    rfl
  exact ⟨whole, opened, holds _ _ opened⟩

end SealGate.Vault.Packet
