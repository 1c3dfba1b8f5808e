import SealGate.Vault.Extent

/-! The arithmetic of extents in natural numbers. Whatever its numbers are, an extent names at least
one packet and stored bytes that are in order. Where its sums and products do not saturate, it names
the packets that hold its plaintext, the stored bytes of these packets, and the place of its first
byte in the first of them; confined to a file it is what the file and the request have in common. -/

namespace SealGate.Vault.Extent

open Number

/-! ### Of every extent -/

section Saturating

variable (e : Extent)

theorem toNat_firstPacket_eq :
    e.firstPacket.toNat = min (e.start.toNat + e.metadataOffset.toNat) largest / packetSize := by
  rw [firstPacket, UInt64.toNat_div, toNat_satAdd]
  rfl

theorem toNat_endPacket_eq :
    e.endPacket.toNat =
      min (min (e.start.toNat + e.length.toNat) largest + e.metadataOffset.toNat) largest /
        packetSize + 1 := by
  have most : largest = 2 ^ 64 - 1 := rfl
  have size : packetSize = 65536 := rfl
  rw [endPacket, UInt64.toNat_add, UInt64.toNat_div, toNat_satAdd, toNat_satAdd, size]
  show (_ / 65536 + 1) % 2 ^ 64 = _
  exact Nat.mod_eq_of_lt (by omega)

theorem firstPacket_lt_endPacket : e.firstPacket.toNat < e.endPacket.toNat := by
  rw [toNat_firstPacket_eq, toNat_endPacket_eq]
  exact Nat.lt_succ_of_le (Nat.div_le_div_right (by omega))

theorem skip_lt_packetSize : e.skip.toNat < packetSize := by
  rw [skip, UInt64.toNat_mod]
  exact Nat.mod_lt _ packetSize_pos

theorem toNat_storedOffset_eq (packet : UInt64) :
    (e.storedOffset packet).toNat =
      min (min (packet.toNat * storedPacketSize) largest + e.headerOffset.toNat) largest := by
  rw [storedOffset, toNat_satAdd, toNat_satMul]
  rfl

theorem storedOffset_mono {packet next : UInt64} (le : packet.toNat ≤ next.toNat) :
    (e.storedOffset packet).toNat ≤ (e.storedOffset next).toNat := by
  have before := Nat.mul_le_mul_right storedPacketSize le
  rw [toNat_storedOffset_eq, toNat_storedOffset_eq]
  omega

theorem one_le_endByte : 1 ≤ e.endByte.toNat := by
  have some := e.firstPacket_lt_endPacket
  have long : storedPacketSize ≤ e.endPacket.toNat * storedPacketSize :=
    Nat.le_mul_of_pos_left _ (by omega)
  have most : largest = 2 ^ 64 - 1 := rfl
  have size : storedPacketSize = 65568 := rfl
  rw [endByte, toNat_storedOffset_eq]
  omega

/-- The last byte that is asked for is the one before the end, which is never 0. -/
theorem requestHeader_eq : e.requestHeader = "bytes=" ++
    Text.Decimal.render e.firstByte.toNat ++ "-" ++ Text.Decimal.render (e.endByte.toNat - 1) := by
  have last : (e.endByte - 1).toNat = e.endByte.toNat - 1 :=
    UInt64.toNat_sub_of_le _ _ (UInt64.le_iff_toNat_le.2 e.one_le_endByte)
  rw [requestHeader, numeral, numeral, last]

end Saturating

/-! ### Of an extent whose plaintext can be counted -/

section Plain

variable {e : Extent} (plain : e.start.toNat + e.length.toNat + e.metadataOffset.toNat < 2 ^ 64)

include plain

theorem toNat_firstPacket :
    e.firstPacket.toNat = (e.start.toNat + e.metadataOffset.toNat) / packetSize := by
  have most : largest = 2 ^ 64 - 1 := rfl
  rw [toNat_firstPacket_eq, Nat.min_eq_left (by omega)]

theorem toNat_skip :
    e.skip.toNat = (e.start.toNat + e.metadataOffset.toNat) % packetSize := by
  have most : largest = 2 ^ 64 - 1 := rfl
  rw [skip, UInt64.toNat_mod, toNat_satAdd, Nat.min_eq_left (by omega)]
  rfl

theorem toNat_endPacket :
    e.endPacket.toNat =
      (e.start.toNat + e.length.toNat + e.metadataOffset.toNat) / packetSize + 1 := by
  have most : largest = 2 ^ 64 - 1 := rfl
  rw [toNat_endPacket_eq, Nat.min_eq_left (by omega), Nat.min_eq_left (by omega)]

/-- The first byte of the piece, counted from the start of the plaintext. -/
theorem firstPacket_add_skip :
    packetSize * e.firstPacket.toNat + e.skip.toNat = e.start.toNat + e.metadataOffset.toNat := by
  rw [toNat_firstPacket plain, toNat_skip plain, Nat.div_add_mod]

/-- The piece ends before the packets do. -/
theorem end_lt_endPacket :
    e.start.toNat + e.length.toNat + e.metadataOffset.toNat <
      packetSize * e.endPacket.toNat := by
  rw [toNat_endPacket plain]
  exact Nat.lt_mul_div_succ _ packetSize_pos

end Plain

/-! ### Stored bytes -/

/-- The sums and products that place an extent do not saturate. -/
structure Fits (e : Extent) : Prop where
  plain : e.start.toNat + e.length.toNat + e.metadataOffset.toNat < 2 ^ 64
  stored : e.endPacket.toNat * storedPacketSize + e.headerOffset.toNat < 2 ^ 64

section Stored

variable {e : Extent}

/-- An extent of a file with at most 2^32 packets fits. -/
theorem fits_of_le
    (plain : e.start.toNat + e.length.toNat + e.metadataOffset.toNat ≤ packetSize * 2 ^ 32)
    (head : e.headerOffset.toNat ≤ packetSize) : e.Fits := by
  have size : packetSize = 65536 := rfl
  have stored : storedPacketSize = 65568 := rfl
  have room : e.start.toNat + e.length.toNat + e.metadataOffset.toNat < 2 ^ 64 := by omega
  refine ⟨room, ?_⟩
  rw [toNat_endPacket room, size, stored]
  omega

theorem toNat_storedOffset {packet : UInt64}
    (fits : packet.toNat * storedPacketSize + e.headerOffset.toNat < 2 ^ 64) :
    (e.storedOffset packet).toNat = packet.toNat * storedPacketSize + e.headerOffset.toNat := by
  have most : largest = 2 ^ 64 - 1 := rfl
  rw [toNat_storedOffset_eq, Nat.min_eq_left (by omega), Nat.min_eq_left (by omega)]

theorem toNat_endByte (fits : e.Fits) :
    e.endByte.toNat = e.endPacket.toNat * storedPacketSize + e.headerOffset.toNat :=
  toNat_storedOffset fits.stored

theorem toNat_firstByte (fits : e.Fits) :
    e.firstByte.toNat = e.firstPacket.toNat * storedPacketSize + e.headerOffset.toNat := by
  have before := Nat.mul_le_mul_right storedPacketSize
    (Nat.le_of_lt e.firstPacket_lt_endPacket)
  have stored := fits.stored
  exact toNat_storedOffset (by omega)

end Stored

/-- A piece that is not empty is named by its first and its last byte and the size of the file. -/
theorem responseHeader_eq {e : Extent} (some : 0 < e.length.toNat)
    (plain : e.start.toNat + e.length.toNat < 2 ^ 64) (known : e.fileSize ≠ 0) :
    e.responseHeader = "bytes " ++ Text.Decimal.render e.start.toNat ++ "-" ++
      Text.Decimal.render (e.start.toNat + e.length.toNat - 1) ++ "/" ++
      Text.Decimal.render e.fileSize.toNat := by
  have most : largest = 2 ^ 64 - 1 := rfl
  have stop : (satAdd e.start e.length).toNat = e.start.toNat + e.length.toNat := by
    rw [toNat_satAdd, Nat.min_eq_left (by omega)]
  have last : (satAdd e.start e.length - 1).toNat = e.start.toNat + e.length.toNat - 1 := by
    rw [UInt64.toNat_sub_of_le _ _ (UInt64.le_iff_toNat_le.2 ?_), stop]
    · rfl
    · show 1 ≤ (satAdd e.start e.length).toNat
      omega
  have running : satAdd e.start e.length ≠ 0 := by
    intro none
    rw [none] at stop
    simp only [UInt64.toNat_zero] at stop
    omega
  simp only [responseHeader, running, if_false, total, known, numeral, last]

/-! ### Confining to a file -/

section Confining

variable (e : Extent) {size : UInt64}

theorem setFileSize_offsets (size : UInt64) :
    (e.setFileSize size).headerOffset = e.headerOffset ∧
      (e.setFileSize size).metadataOffset = e.metadataOffset ∧
      (e.setFileSize size).fileSize = size := by
  rw [setFileSize]
  split
  · rename_i none
    exact ⟨rfl, rfl, none.symm⟩
  split
  · exact ⟨rfl, rfl, rfl⟩
  split <;> exact ⟨rfl, rfl, rfl⟩

theorem toNat_start_setFileSize (size : UInt64) :
    (e.setFileSize size).start.toNat = min e.start.toNat size.toNat := by
  rw [setFileSize]
  split
  · rename_i none
    rw [none]
    exact (Nat.min_zero _).symm
  split
  · rename_i behind
    rw [UInt64.lt_iff_toNat_lt] at behind
    show size.toNat = min e.start.toNat size.toNat
    omega
  · rename_i before
    rw [UInt64.lt_iff_toNat_lt] at before
    have same : e.start.toNat = min e.start.toNat size.toNat := by omega
    split <;> exact same

theorem toNat_length_setFileSize (size : UInt64) :
    (e.setFileSize size).length.toNat =
      if e.length = 0 then size.toNat - e.start.toNat
      else min e.length.toNat (size.toNat - e.start.toNat) := by
  rw [setFileSize]
  split
  · rename_i none
    rw [none]
    split <;> simp
  split
  · rename_i behind
    rw [UInt64.lt_iff_toNat_lt] at behind
    split <;> simp only [UInt64.toNat_zero] <;> omega
  · rename_i before
    have rest := UInt64.toNat_sub_of_le _ _ (UInt64.not_lt.1 before)
    by_cases unknown : e.length = 0
    · rw [if_pos (.inl unknown), if_pos unknown]
      exact rest
    by_cases long : size - e.start < e.length
    · rw [if_pos (.inr long), if_neg unknown]
      rw [UInt64.lt_iff_toNat_lt, rest] at long
      show (size - e.start).toNat = _
      omega
    · rw [if_neg (by simp [unknown, long]), if_neg unknown]
      rw [UInt64.lt_iff_toNat_lt, rest] at long
      show e.length.toNat = min e.length.toNat (size.toNat - e.start.toNat)
      omega

end Confining

end SealGate.Vault.Extent
