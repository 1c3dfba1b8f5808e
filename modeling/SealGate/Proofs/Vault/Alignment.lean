import SealGate.Proofs.Vault.Extent
import SealGate.Text.Split

/-! Extents whose sums and products reach the largest 64-bit number. The stream that is opened
begins with the first packet of the extent; the bytes that are asked for begin with it as well, if
the place of that packet is a 64-bit number that another one follows. Behind that the place
saturates and the request names a last byte that comes before its first. Which files are free of
this is a matter of the declared size alone. -/

namespace SealGate

namespace Text.Decimal

/-- Two numerals with a hyphen between them are known from the text. -/
theorem eq_of_hyphen {one two one' two' : Nat}
    (same : digits one ++ '-' :: digits two = digits one' ++ '-' :: digits two') :
    one = one' ∧ two = two' := by
  have apart (n : Nat) : '-' ∉ digits n := fun mem =>
    absurd (isDigit_of_mem_digits n '-' mem) (by decide)
  have first : splitFirst '-' (digits one ++ '-' :: digits two) = some (digits one, digits two) :=
    splitFirst_eq_some_iff.2 ⟨rfl, apart one⟩
  have again := splitFirst_eq_some_iff.2 ⟨same, apart one'⟩
  rw [first] at again
  obtain ⟨front, back⟩ := Prod.mk.inj (Option.some.inj again)
  constructor
  · rw [← value_digits one, front, value_digits]
  · rw [← value_digits two, back, value_digits]

end Text.Decimal

namespace Vault.Extent

open Number Text

variable (e : Extent)

/-- The place in the stored object at which the first packet begins. -/
def packetStart : Nat := e.firstPacket.toNat * storedPacketSize + e.headerOffset.toNat

/-- A request for stored bytes by its first and its last one. -/
def spanText (first last : Nat) : String :=
  "bytes=" ++ Decimal.render first ++ "-" ++ Decimal.render last

theorem eq_of_spanText {first last first' last' : Nat}
    (same : spanText first last = spanText first' last') : first = first' ∧ last = last' := by
  have chars := congrArg String.toList same
  simp only [spanText, Decimal.render, String.toList_append, String.toList_ofList,
    List.append_assoc, List.append_cancel_left_eq] at chars
  exact Decimal.eq_of_hyphen chars

/-- The bytes that are asked for begin with the packet with which the stream begins, and the piece
begins in it where the stream is told to. -/
structure IsAligned : Prop where
  request : ∃ last, e.packetStart ≤ last ∧ e.requestHeader = spanText e.packetStart last
  window : e.firstPacket.toNat * packetSize + e.skip.toNat =
    e.start.toNat + e.metadataOffset.toNat

theorem toNat_storedOffset_min (packet : UInt64) : (e.storedOffset packet).toNat =
    min (packet.toNat * storedPacketSize + e.headerOffset.toNat) largest := by
  rw [toNat_storedOffset_eq]
  omega

theorem toNat_firstByte_min : e.firstByte.toNat = min e.packetStart largest :=
  e.toNat_storedOffset_min e.firstPacket

/-- The end of the bytes that are asked for is a packet behind their start, or saturates. -/
theorem min_packetStart_le_endByte :
    min (e.packetStart + storedPacketSize) largest ≤ e.endByte.toNat := by
  have next := Nat.mul_le_mul_right storedPacketSize
    (Nat.succ_le_of_lt e.firstPacket_lt_endPacket)
  rw [Nat.succ_mul] at next
  rw [endByte, toNat_storedOffset_min, packetStart]
  omega

theorem packetStart_eq : e.packetStart =
    min (e.start.toNat + e.metadataOffset.toNat) (2 ^ 64 - 1) / 65536 * 65568 +
      e.headerOffset.toNat := by
  rw [packetStart, toNat_firstPacket_eq]
  rfl

/-- If the plaintext cannot be counted, then the place of the first packet saturates as well. -/
theorem plain_of_packetStart (fits : e.packetStart + 1 < 2 ^ 64) :
    e.start.toNat + e.metadataOffset.toNat < 2 ^ 64 := by
  rw [packetStart_eq] at fits
  omega

theorem window_of_plain (plain : e.start.toNat + e.metadataOffset.toNat < 2 ^ 64) :
    e.firstPacket.toNat * packetSize + e.skip.toNat =
      e.start.toNat + e.metadataOffset.toNat := by
  have most : largest = 2 ^ 64 - 1 := rfl
  have skip : e.skip.toNat =
      min (e.start.toNat + e.metadataOffset.toNat) largest % packetSize := by
    rw [skip, UInt64.toNat_mod, toNat_satAdd]
    rfl
  rw [skip, toNat_firstPacket_eq, Nat.min_eq_left (by omega), Nat.mul_comm, Nat.div_add_mod]

/-- An extent is aligned if and only if the place of its first packet is no more than the last but
one of the 64-bit numbers. -/
theorem isAligned_iff_packetStart : e.IsAligned ↔ e.packetStart + 1 < 2 ^ 64 := by
  have most : largest = 2 ^ 64 - 1 := rfl
  have first := e.toNat_firstByte_min
  have shown : e.requestHeader = spanText e.firstByte.toNat (e.endByte.toNat - 1) :=
    e.requestHeader_eq
  constructor
  · rintro ⟨⟨last, ordered, request⟩, -⟩
    obtain ⟨-, stop⟩ := eq_of_spanText (shown.symm.trans request)
    have below := e.endByte.toNat_lt
    omega
  · intro fits
    have behind := e.min_packetStart_le_endByte
    have stored : storedPacketSize = 65568 := rfl
    have exact : e.firstByte.toNat = e.packetStart := by omega
    rw [exact] at shown
    exact ⟨⟨_, by omega, shown⟩, e.window_of_plain (e.plain_of_packetStart fits)⟩

/-! ### By the declared size -/

/-- The largest size of a file each piece of which is aligned, whatever stands before its content
with a header of 256 bytes and 32768 bytes of metadata at most. -/
def largestAligned : Nat := 18437741270354853888

/-- The first of the packets that are too far back to be asked for. -/
theorem packetStart_of_largestAligned (header : e.headerOffset.toNat ≤ 256)
    (info : e.metadataOffset.toNat ≤ 32768) (inside : e.start.toNat < largestAligned) :
    e.packetStart + 1 < 2 ^ 64 := by
  have bound : largestAligned = 18437741270354853888 := rfl
  rw [packetStart_eq]
  omega

/-- The last byte of a file behind the longest header and the most metadata. -/
def lastByteOf (size : UInt64) : Extent := ⟨size - 1, 0, 256, 32768, 0⟩

theorem toNat_start_lastByteOf {size : UInt64} (some : largestAligned < size.toNat) :
    ((lastByteOf size).setFileSize size).start.toNat = size.toNat - 1 := by
  have one : (1 : UInt64) ≤ size := UInt64.le_iff_toNat_le.2 (by
    rw [UInt64.toNat_one]
    omega)
  have start : (lastByteOf size).start.toNat = size.toNat - 1 := UInt64.toNat_sub_of_le _ _ one
  rw [toNat_start_setFileSize, start]
  omega

theorem packetStart_lastByteOf {size : UInt64} (large : largestAligned < size.toNat) :
    2 ^ 64 ≤ ((lastByteOf size).setFileSize size).packetStart + 1 := by
  obtain ⟨header, info, -⟩ := (lastByteOf size).setFileSize_offsets size
  have headerBytes : ((lastByteOf size).setFileSize size).headerOffset.toNat = 256 :=
    congrArg UInt64.toNat header
  have infoBytes : ((lastByteOf size).setFileSize size).metadataOffset.toNat = 32768 :=
    congrArg UInt64.toNat info
  have start := toNat_start_lastByteOf large
  have bound : largestAligned = 18437741270354853888 := rfl
  have small := size.toNat_lt
  rw [packetStart_eq, headerBytes, infoBytes, start]
  omega

/-- A request inside a file is aligned if and only if the place of its first packet leaves room for
one number more; and all requests inside a file are if and only if its size is within the bound. -/
theorem isAligned_setFileSize_iff (size : UInt64) :
    (∀ e : Extent, (e.setFileSize size).IsAligned ↔
      (e.setFileSize size).packetStart + 1 < 2 ^ 64) ∧
    ((∀ e : Extent, e.headerOffset.toNat ≤ 256 → e.metadataOffset.toNat ≤ 32768 →
        (e.setFileSize size).start < size → (e.setFileSize size).IsAligned) ↔
      size.toNat ≤ largestAligned) := by
  refine ⟨fun e => (e.setFileSize size).isAligned_iff_packetStart, ?_, ?_⟩
  · refine fun all => Nat.le_of_not_lt fun large => ?_
    have start := toNat_start_lastByteOf large
    have inside : ((lastByteOf size).setFileSize size).start < size := by
      rw [UInt64.lt_iff_toNat_lt]
      omega
    have aligned := all (lastByteOf size) (Nat.le_refl 256) (Nat.le_refl 32768) inside
    have behind := packetStart_lastByteOf large
    have before := (isAligned_iff_packetStart _).1 aligned
    omega
  · intro small e header info inside
    obtain ⟨sameHeader, sameInfo, -⟩ := e.setFileSize_offsets size
    rw [UInt64.lt_iff_toNat_lt] at inside
    rw [isAligned_iff_packetStart]
    refine packetStart_of_largestAligned _ ?_ ?_ (by omega)
    · rwa [sameHeader]
    · rwa [sameInfo]

/-- The last ten bytes of a file of 24 GiB are asked for from the start of their packet on. -/
theorem isAligned_of_large_file :
    let e := (Extent.mk 25769803766 0 72 50 0).setFileSize 25769803776
    e.start < 25769803776 ∧ (25769803776 : UInt64).toNat ≤ largestAligned ∧
      e.length = 10 ∧ e.packetStart = 393216 * storedPacketSize + 72 ∧ e.IsAligned := by
  intro e
  have inside : e.start < 25769803776 := by decide
  have small : (25769803776 : UInt64).toNat ≤ largestAligned := by decide
  have aligned := (isAligned_setFileSize_iff 25769803776).2.2 small
    (Extent.mk 25769803766 0 72 50 0) (by decide) (by decide) inside
  exact ⟨inside, small, by decide, by decide, aligned⟩

/-- The last 115 bytes of a file of the largest size that can be declared, behind a header of 136
bytes and 29 bytes of metadata: the request names a last byte that comes before its first, and
neither is where the packet begins. -/
theorem misaligned_at_largest_size :
    let e := (Extent.mk 18446744073709551500 0 136 29 0).setFileSize 18446744073709551615
    e.headerOffset.toNat ≤ 256 ∧ e.metadataOffset.toNat ≤ 32768 ∧
      e.start < 18446744073709551615 ∧ e.packetStart = 18455751272964227176 ∧
      e.requestHeader = "bytes=18446744073709551615-18446744073709551614" ∧ ¬ e.IsAligned := by
  intro e
  have start : e.packetStart = 18455751272964227176 := by decide
  have request : e.requestHeader = "bytes=18446744073709551615-18446744073709551614" := by
    decide +kernel
  refine ⟨by decide, by decide, by decide, start, request, fun aligned => ?_⟩
  have before := (isAligned_iff_packetStart e).1 aligned
  omega

end Vault.Extent

end SealGate
