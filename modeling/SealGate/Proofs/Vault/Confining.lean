import SealGate.Proofs.Vault.Extent

/-! Requests confined to a file. A request with length 0 asks for everything from its start on; an
extent of a file with length 0 holds nothing. Setting the file size goes from the one to the other:
what is left is what the request and the file have in common. It can be set again, since an extent
that has been left with nothing stands at the end of the file, where everything from its start on is
nothing as well. -/

namespace SealGate.Vault.Extent

/-- A byte of the content that is asked for before the size of the file is known. -/
def Requests (e : Extent) (place : Nat) : Prop :=
  e.start.toNat ≤ place ∧ (e.length = 0 ∨ place < e.start.toNat + e.length.toNat)

/-- A byte of the content that belongs to the piece once the size of the file is known. -/
def Holds (e : Extent) (place : Nat) : Prop :=
  e.start.toNat ≤ place ∧ place < e.start.toNat + e.length.toNat

variable (e : Extent) (size : UInt64)

/-- The start is moved by no more than to the end of the file, and only from behind it. -/
theorem start_setFileSize :
    (e.setFileSize size).start = if size < e.start then size else e.start := by
  rw [← UInt64.toNat_inj, toNat_start_setFileSize]
  split
  · rename_i behind
    rw [UInt64.lt_iff_toNat_lt] at behind
    omega
  · rename_i inside
    rw [UInt64.lt_iff_toNat_lt] at inside
    omega

theorem stop_setFileSize_le :
    (e.setFileSize size).start.toNat + (e.setFileSize size).length.toNat ≤ size.toNat := by
  rw [toNat_start_setFileSize, toNat_length_setFileSize]
  split <;> omega

theorem holds_setFileSize_iff (place : Nat) :
    (e.setFileSize size).Holds place ↔ e.Requests place ∧ place < size.toNat := by
  rw [Holds, Requests, toNat_start_setFileSize, toNat_length_setFileSize]
  by_cases unknown : e.length = 0
  · simp only [unknown, if_true, true_or, and_true]
    omega
  · simp only [unknown, if_false, false_or]
    omega

/-- An extent that is left with nothing stands at the end of the file. -/
theorem length_setFileSize_eq_zero_iff : (e.setFileSize size).length = 0 ↔ size ≤ e.start := by
  rw [← UInt64.toNat_inj, toNat_length_setFileSize, UInt64.le_iff_toNat_le, UInt64.toNat_zero]
  by_cases unknown : e.length = 0
  · rw [if_pos unknown]
    omega
  · have some : e.length.toNat ≠ 0 := fun none => unknown (UInt64.toNat_inj.1 none)
    rw [if_neg unknown]
    omega

theorem eq_of_toNat {one other : Extent} (start : one.start.toNat = other.start.toNat)
    (length : one.length.toNat = other.length.toNat)
    (header : one.headerOffset = other.headerOffset)
    (info : one.metadataOffset = other.metadataOffset) (file : one.fileSize = other.fileSize) :
    one = other := by
  cases one
  cases other
  rw [mk.injEq]
  exact ⟨UInt64.toNat_inj.1 start, UInt64.toNat_inj.1 length, header, info, file⟩

/-- Of two sizes the smaller one counts, when it is set last. -/
theorem setFileSize_setFileSize {smaller : UInt64} (le : smaller ≤ size) :
    (e.setFileSize size).setFileSize smaller = e.setFileSize smaller := by
  obtain ⟨header, info, -⟩ := e.setFileSize_offsets size
  obtain ⟨headerTwice, infoTwice, fileTwice⟩ := (e.setFileSize size).setFileSize_offsets smaller
  obtain ⟨headerOnce, infoOnce, fileOnce⟩ := e.setFileSize_offsets smaller
  have order := UInt64.le_iff_toNat_le.1 le
  refine eq_of_toNat ?_ ?_ (headerTwice.trans (header.trans headerOnce.symm))
    (infoTwice.trans (info.trans infoOnce.symm)) (fileTwice.trans fileOnce.symm)
  · simp only [toNat_start_setFileSize]
    omega
  · rw [toNat_length_setFileSize, toNat_start_setFileSize, toNat_length_setFileSize,
      toNat_length_setFileSize]
    by_cases nothing : size ≤ e.start
    · -- Length 0 is read as unbounded again, but the extent stands behind the smaller size.
      rw [if_pos ((e.length_setFileSize_eq_zero_iff size).2 nothing)]
      rw [UInt64.le_iff_toNat_le] at nothing
      split <;> omega
    · rw [if_neg (mt (e.length_setFileSize_eq_zero_iff size).1 nothing)]
      split <;> omega

/-- What is left of a request when the size of the file has been set. -/
structure IsConfined (after : Extent) : Prop where
  start_le : after.start ≤ size
  stop_le : after.start.toNat + after.length.toNat ≤ size.toNat
  bytes : ∀ place, after.Holds place ↔ e.Requests place ∧ place < size.toNat
  start : after.start = if size < e.start then size else e.start
  headerOffset : after.headerOffset = e.headerOffset
  metadataOffset : after.metadataOffset = e.metadataOffset
  fileSize : after.fileSize = size

theorem isConfined_setFileSize : e.IsConfined size (e.setFileSize size) where
  start_le := by
    rw [UInt64.le_iff_toNat_le, toNat_start_setFileSize]
    exact Nat.min_le_right _ _
  stop_le := e.stop_setFileSize_le size
  bytes := e.holds_setFileSize_iff size
  start := e.start_setFileSize size
  headerOffset := (e.setFileSize_offsets size).1
  metadataOffset := (e.setFileSize_offsets size).2.1
  fileSize := (e.setFileSize_offsets size).2.2

/-- Setting the file size leaves what the request and the file have in common. Setting it again
changes nothing, and after a smaller size the larger one is forgotten. -/
theorem setFileSize_confines :
    e.IsConfined size (e.setFileSize size) ∧
      (e.setFileSize size).setFileSize size = e.setFileSize size ∧
      ∀ smaller ≤ size, (e.setFileSize size).setFileSize smaller = e.setFileSize smaller :=
  ⟨e.isConfined_setFileSize size, e.setFileSize_setFileSize size (UInt64.le_refl size),
    fun _ le => e.setFileSize_setFileSize size le⟩

/-- Everything from the end of a file on is nothing, and stays so when the file turns out to be
shorter. -/
theorem setFileSize_confines_of_end :
    ((ofRequest 600 0).setFileSize 600).length = 0 ∧
      ((ofRequest 600 0).setFileSize 600).setFileSize 100 = ⟨100, 0, 0, 0, 100⟩ := by
  have shorter := ((ofRequest 600 0).setFileSize_confines 600).2.2 100 (by decide)
  exact ⟨by decide, shorter.trans (by decide)⟩

end SealGate.Vault.Extent
