import SealGate.Bytes

/-! The law of cutting a byte string into pieces: the pieces put together are the string, a run of
full pieces in front is cut off as it stands, and leaving out or keeping a whole number of pieces is
the same before and after the cut. A list of pieces, all full but the last and that not empty, is
the only way to cut what they make together. -/

namespace SealGate.Bytes

variable {size : Nat}

theorem length_chunks (size : Nat) (bytes : Bytes) :
    (chunks size bytes).length = chunkCount size bytes := by
  have all : ∀ (count : Nat) (rest : Bytes), (chunksFrom size count rest).length = count := by
    intro count
    induction count with
    | zero => intro rest; rfl
    | succ count ih => intro rest; rw [chunksFrom, List.length_cons, ih]
  exact all _ bytes

@[simp] theorem chunks_nil (h : 0 < size) : chunks size [] = [] := by
  have none : chunkCount size [] = 0 := by
    simp only [chunkCount, List.length_nil]
    exact Nat.div_eq_of_lt (by omega)
  rw [chunks, none, chunksFrom]

theorem chunkCount_eq_succ (h : 0 < size) {bytes : Bytes} (hb : bytes ≠ []) :
    chunkCount size bytes = chunkCount size (bytes.drop size) + 1 := by
  have some := List.length_pos_iff.2 hb
  simp only [chunkCount, List.length_drop]
  by_cases hs : size ≤ bytes.length
  · rw [show bytes.length + size - 1 = (bytes.length - size + size - 1) + size by omega,
      Nat.add_div_right _ h]
  · rw [show bytes.length - size + size - 1 = size - 1 by omega,
      Nat.div_eq_of_lt (show size - 1 < size by omega),
      Nat.div_eq_of_lt_le (show (0 + 1) * size ≤ bytes.length + size - 1 by omega)
        (show bytes.length + size - 1 < (0 + 1 + 1) * size by omega)]

/-- The pieces are counted by the places at which they start. -/
theorem lt_chunkCount_iff (h : 0 < size) {bytes : Bytes} {count : Nat} :
    count < chunkCount size bytes ↔ size * count < bytes.length := by
  rw [chunkCount, Nat.lt_iff_add_one_le, Nat.le_div_iff_mul_le h, Nat.succ_mul,
    Nat.mul_comm count size]
  omega

theorem chunks_of_ne_nil (h : 0 < size) {bytes : Bytes} (hb : bytes ≠ []) :
    chunks size bytes = bytes.take size :: chunks size (bytes.drop size) := by
  rw [chunks, chunkCount_eq_succ h hb, chunksFrom, chunks]

/-- A full piece in front is cut off as it stands. -/
theorem chunks_append (h : 0 < size) {piece : Bytes} (full : piece.length = size) (rest : Bytes) :
    chunks size (piece ++ rest) = piece :: chunks size rest := by
  have some : piece ++ rest ≠ [] := by
    intro none
    rw [(List.append_eq_nil_iff.1 none).1] at full
    simp at full
    omega
  rw [chunks_of_ne_nil h some, List.take_left' full, List.drop_left' full]

theorem chunks_of_le (h : 0 < size) {piece : Bytes} (some : piece ≠ [])
    (fits : piece.length ≤ size) : chunks size piece = [piece] := by
  rw [chunks_of_ne_nil h some, List.take_of_length_le fits, List.drop_eq_nil_of_le fits,
    chunks_nil h]

theorem chunks_flatten_append (h : 0 < size) {pieces : List Bytes}
    (full : ∀ piece ∈ pieces, piece.length = size) (rest : Bytes) :
    chunks size (pieces.flatten ++ rest) = pieces ++ chunks size rest := by
  induction pieces with
  | nil => rfl
  | cons piece pieces ih =>
    rw [List.flatten_cons, List.append_assoc, chunks_append h (full piece (by simp)),
      ih fun other mem => full other (by simp [mem]), List.cons_append]

theorem flatten_chunks (h : 0 < size) (bytes : Bytes) : (chunks size bytes).flatten = bytes := by
  by_cases hb : bytes = []
  · simp [hb, h]
  · have shorter : (bytes.drop size).length < bytes.length := by
      have long := List.length_pos_iff.2 hb
      rw [List.length_drop]
      omega
    rw [chunks_of_ne_nil h hb, List.flatten_cons, flatten_chunks h (bytes.drop size),
      List.take_append_drop]
termination_by bytes.length

theorem chunks_drop (h : 0 < size) (count : Nat) (bytes : Bytes) :
    chunks size (bytes.drop (size * count)) = (chunks size bytes).drop count := by
  induction count generalizing bytes with
  | zero => simp
  | succ count ih =>
    by_cases hb : bytes = []
    · simp [hb, h]
    · rw [chunks_of_ne_nil h hb, List.drop_succ_cons, ← ih, List.drop_drop,
        show size + size * count = size * (count + 1) by rw [Nat.mul_succ, Nat.add_comm]]

theorem chunks_take (h : 0 < size) (count : Nat) (bytes : Bytes) :
    chunks size (bytes.take (size * count)) = (chunks size bytes).take count := by
  induction count generalizing bytes with
  | zero => simp [h]
  | succ count ih =>
    by_cases hb : bytes = []
    · simp [hb, h]
    · have step : size * (count + 1) = size + size * count := by
        rw [Nat.mul_succ, Nat.add_comm]
      have some : bytes.take (size * (count + 1)) ≠ [] := by
        rw [step]
        intro none
        rcases List.take_eq_nil_iff.1 none with zero | none
        · omega
        · exact hb none
      rw [chunks_of_ne_nil h some, chunks_of_ne_nil h hb, List.take_succ_cons, ← ih,
        List.take_take, List.drop_take, step, Nat.min_eq_left (Nat.le_add_right _ _),
        Nat.add_sub_cancel_left]

/-- Every piece has at least one byte and no more than it may have. -/
theorem length_of_mem_chunks (h : 0 < size) {bytes piece : Bytes}
    (mem : piece ∈ chunks size bytes) : 0 < piece.length ∧ piece.length ≤ size := by
  by_cases hb : bytes = []
  · simp [hb, h] at mem
  · have long := List.length_pos_iff.2 hb
    have shorter : (bytes.drop size).length < bytes.length := by
      rw [List.length_drop]
      omega
    rw [chunks_of_ne_nil h hb] at mem
    rcases List.mem_cons.1 mem with rfl | mem
    · rw [List.length_take]
      omega
    · exact length_of_mem_chunks h mem
termination_by bytes.length

/-- Of a whole number of pieces all are full. -/
theorem full_of_mem_chunks (h : 0 < size) {bytes piece : Bytes} (whole : size ∣ bytes.length)
    (mem : piece ∈ chunks size bytes) : piece.length = size := by
  by_cases hb : bytes = []
  · simp [hb, h] at mem
  · have long := Nat.le_of_dvd (List.length_pos_iff.2 hb) whole
    have shorter : (bytes.drop size).length < bytes.length := by
      rw [List.length_drop]
      omega
    have rest : size ∣ (bytes.drop size).length := by
      rw [List.length_drop]
      exact Nat.dvd_sub whole (Nat.dvd_refl size)
    rw [chunks_of_ne_nil h hb] at mem
    rcases List.mem_cons.1 mem with rfl | mem
    · rw [List.length_take]
      omega
    · exact full_of_mem_chunks h rest mem
termination_by bytes.length

theorem chunkCount_of_dvd (h : 0 < size) {bytes : Bytes} (whole : size ∣ bytes.length) :
    chunkCount size bytes = bytes.length / size := by
  obtain ⟨count, length⟩ := whole
  rw [chunkCount, length, Nat.mul_div_cancel_left count h]
  exact Nat.div_eq_of_lt_le (by rw [Nat.mul_comm]; omega)
    (by rw [Nat.succ_mul, Nat.mul_comm]; omega)

/-- A whole number of pieces in front is cut on its own. -/
theorem chunks_append_of_dvd (h : 0 < size) {front : Bytes} (whole : size ∣ front.length)
    (back : Bytes) : chunks size (front ++ back) = chunks size front ++ chunks size back := by
  have full := chunks_flatten_append h (fun piece => full_of_mem_chunks h whole) back
  rw [flatten_chunks h] at full
  exact full

/-- All pieces but the last are full, and the last is not empty. -/
def IsCut (size : Nat) : List Bytes → Prop
  | [] => True
  | [last] => 0 < last.length ∧ last.length ≤ size
  | piece :: rest => piece.length = size ∧ IsCut size rest

theorem IsCut.cons {piece : Bytes} {rest : List Bytes} (full : piece.length = size)
    (some : 0 < size) (cut : IsCut size rest) : IsCut size (piece :: rest) := by
  cases rest with
  | nil => exact ⟨by omega, by omega⟩
  | cons next rest => exact ⟨full, cut⟩

theorem isCut_chunks (h : 0 < size) (bytes : Bytes) : IsCut size (chunks size bytes) := by
  by_cases hb : bytes = []
  · simp [hb, h, IsCut]
  · have long := List.length_pos_iff.2 hb
    have shorter : (bytes.drop size).length < bytes.length := by
      rw [List.length_drop]
      omega
    rw [chunks_of_ne_nil h hb]
    by_cases fits : bytes.length ≤ size
    · rw [List.drop_eq_nil_of_le fits, chunks_nil h, List.take_of_length_le fits]
      exact ⟨long, fits⟩
    · exact IsCut.cons (by rw [List.length_take]; omega) h (isCut_chunks h (bytes.drop size))
termination_by bytes.length

/-- Pieces that are full but for the last are what cutting gives. -/
theorem chunks_flatten (h : 0 < size) {pieces : List Bytes} (cut : IsCut size pieces) :
    chunks size pieces.flatten = pieces := by
  induction pieces with
  | nil => exact chunks_nil h
  | cons piece rest ih =>
    cases rest with
    | nil =>
      have some : piece ≠ [] := List.ne_nil_of_length_pos cut.1
      rw [List.flatten_cons, List.flatten_nil, List.append_nil, chunks_of_le h some cut.2]
    | cons next rest => rw [List.flatten_cons, chunks_append h cut.1, ih cut.2]

end SealGate.Bytes
