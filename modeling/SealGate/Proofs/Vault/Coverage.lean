import SealGate.Proofs.Bytes.Pieces
import SealGate.Proofs.Vault.Extent

/-! What an extent fetches. Whatever its numbers are, it fetches at least one packet, and the stored
bytes that it asks for are in order. Where its sums and products do not saturate, these bytes are
the stored packets it names and no others; the packets hold the whole piece, and at most one of them
is behind the packet of its last byte. -/

namespace SealGate.Vault.Extent

/-- The places that an extent names are in order, and one can step back from the end. -/
structure IsOrdered (e : Extent) : Prop where
  packets : e.firstPacket.toNat + 1 ≤ e.endPacket.toNat
  skip : e.skip.toNat < 65536
  bytes : e.firstByte.toNat ≤ e.endByte.toNat
  last : 1 ≤ e.endByte.toNat
  request : e.requestHeader = "bytes=" ++ Text.Decimal.render e.firstByte.toNat ++ "-" ++
    Text.Decimal.render (e.endByte.toNat - 1)

theorem isOrdered (e : Extent) : e.IsOrdered where
  packets := e.firstPacket_lt_endPacket
  skip := e.skip_lt_packetSize
  bytes := e.storedOffset_mono (Nat.le_of_lt e.firstPacket_lt_endPacket)
  last := e.one_le_endByte
  request := e.requestHeader_eq

/-! ### Of an extent that fits -/

/-- A place in the stored object that lies in a packet: behind the header and the packets before. -/
def InPacket (e : Extent) (packet place : Nat) : Prop :=
  e.headerOffset.toNat + packet * storedPacketSize ≤ place ∧
    place < e.headerOffset.toNat + (packet + 1) * storedPacketSize

/-- The packet that holds the last byte of the piece. -/
def lastPacket (e : Extent) : Nat :=
  (e.start.toNat + e.length.toNat + e.metadataOffset.toNat - 1) / packetSize

/-- The stored packets behind the header of an object. -/
def packetsOf (e : Extent) (object : Bytes) : List Bytes :=
  Bytes.chunks storedPacketSize (object.drop e.headerOffset.toNat)

section Fitting

variable {e : Extent} (fits : e.Fits)

include fits

/-- A place is asked for if it lies in one of the packets from the first to the end. -/
theorem asked_iff_inPacket (place : Nat) :
    e.firstByte.toNat ≤ place ∧ place < e.endByte.toNat ↔
      ∃ packet, e.firstPacket.toNat ≤ packet ∧ packet < e.endPacket.toNat ∧
        e.InPacket packet place := by
  have size := storedPacketSize_pos
  rw [toNat_firstByte fits, toNat_endByte fits]
  constructor
  · rintro ⟨low, high⟩
    have behind : e.headerOffset.toNat ≤ place := by omega
    have split := Nat.div_add_mod (place - e.headerOffset.toNat) storedPacketSize
    have rest := Nat.mod_lt (place - e.headerOffset.toNat) size
    refine ⟨(place - e.headerOffset.toNat) / storedPacketSize, ?_, ?_, ?_, ?_⟩
    · exact (Nat.le_div_iff_mul_le size).2 (by omega)
    · exact (Nat.div_lt_iff_lt_mul size).2 (by omega)
    · rw [Nat.mul_comm]
      omega
    · rw [Nat.succ_mul, Nat.mul_comm]
      omega
  · rintro ⟨packet, first, stop, low, high⟩
    have before := Nat.mul_le_mul_right storedPacketSize first
    have behind := Nat.mul_le_mul_right storedPacketSize (Nat.succ_le_of_lt stop)
    rw [Nat.succ_eq_add_one] at behind
    omega

/-- The bytes that are asked for are the packets from the first to the end, of any object. -/
theorem slice_eq_packets (object : Bytes) :
    (object.take e.endByte.toNat).drop e.firstByte.toNat =
      (((e.packetsOf object).take e.endPacket.toNat).drop e.firstPacket.toNat).flatten := by
  rw [packetsOf, ← Bytes.chunks_take storedPacketSize_pos, ← Bytes.chunks_drop storedPacketSize_pos,
    Bytes.flatten_chunks storedPacketSize_pos, toNat_firstByte fits, toNat_endByte fits,
    Nat.add_comm (e.firstPacket.toNat * storedPacketSize), ← List.drop_drop, List.drop_take,
    Nat.add_sub_cancel, Nat.mul_comm e.endPacket.toNat, Nat.mul_comm e.firstPacket.toNat]

/-- The packets hold every byte of the piece. -/
theorem packet_of_asked {place : Nat} (low : e.start.toNat ≤ place)
    (high : place < e.start.toNat + e.length.toNat) :
    e.firstPacket.toNat ≤ (place + e.metadataOffset.toNat) / packetSize ∧
      (place + e.metadataOffset.toNat) / packetSize < e.endPacket.toNat := by
  rw [toNat_firstPacket fits.plain, toNat_endPacket fits.plain]
  exact ⟨Nat.div_le_div_right (by omega), Nat.lt_succ_of_le (Nat.div_le_div_right (by omega))⟩

/-- A packet behind that of the last byte is fetched if the piece ends with a packet. -/
theorem endPacket_eq (some : 0 < e.length.toNat) :
    e.endPacket.toNat =
      if packetSize ∣ e.start.toNat + e.length.toNat + e.metadataOffset.toNat
      then e.lastPacket + 2 else e.lastPacket + 1 := by
  have size : packetSize = 65536 := rfl
  rw [toNat_endPacket fits.plain, lastPacket, size]
  split <;> omega

end Fitting

/-- What an extent fetches is what it is meant to fetch. -/
structure Spans (e : Extent) : Prop where
  start : e.start.toNat + e.metadataOffset.toNat =
    e.firstPacket.toNat * packetSize + e.skip.toNat
  stored : ∀ place, e.firstByte.toNat ≤ place ∧ place < e.endByte.toNat ↔
    ∃ packet, e.firstPacket.toNat ≤ packet ∧ packet < e.endPacket.toNat ∧ e.InPacket packet place
  bytes : ∀ object : Bytes, (object.take e.endByte.toNat).drop e.firstByte.toNat =
    (((e.packetsOf object).take e.endPacket.toNat).drop e.firstPacket.toNat).flatten
  holds : ∀ place, e.start.toNat ≤ place → place < e.start.toNat + e.length.toNat →
    e.firstPacket.toNat ≤ (place + e.metadataOffset.toNat) / packetSize ∧
      (place + e.metadataOffset.toNat) / packetSize < e.endPacket.toNat
  spare : 0 < e.length.toNat →
    (e.endPacket.toNat = e.lastPacket + 1 ∨ e.endPacket.toNat = e.lastPacket + 2) ∧
      (e.endPacket.toNat = e.lastPacket + 2 ↔
        packetSize ∣ e.start.toNat + e.length.toNat + e.metadataOffset.toNat)

/-- Every extent asks for at least one packet and for bytes that are in order, whether its sums
saturate or not. One that fits asks for the stored packets that hold its piece and for no more than
one behind them, which is when the piece ends with a packet. -/
theorem fetches_packets_of_piece (e : Extent) : e.IsOrdered ∧ (e.Fits → e.Spans) := by
  refine ⟨e.isOrdered, fun fits => ⟨?_, ?_, ?_, ?_, ?_⟩⟩
  · rw [Nat.mul_comm]
    exact (firstPacket_add_skip fits.plain).symm
  · exact asked_iff_inPacket fits
  · exact slice_eq_packets fits
  · exact fun place low high => packet_of_asked fits low high
  · intro some
    rw [endPacket_eq fits some]
    split <;> omega

/-- The last ten bytes of the third packet of a file with 50 bytes of metadata. -/
def brimSample : Extent := ⟨196548, 10, 72, 50, 600107⟩

/-- Of a piece that ends with a packet, the packet behind it is fetched as well. -/
theorem fetches_packets_of_brimSample :
    brimSample.Fits ∧ brimSample.Spans ∧ brimSample.endPacket.toNat = brimSample.lastPacket + 2 := by
  have fits : brimSample.Fits := ⟨by decide, by decide⟩
  have spans := (fetches_packets_of_piece brimSample).2 fits
  exact ⟨fits, spans, (spans.spare (by decide)).2.2 (by decide)⟩

end SealGate.Vault.Extent
