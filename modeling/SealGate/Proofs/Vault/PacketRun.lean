import SealGate.Proofs.Bytes.Pieces
import SealGate.Proofs.Http.Delivery
import SealGate.Vault.Packet

/-! Runs of stored packets. A packet that opens is 32 bytes longer than its plaintext and its place
is below 2^32. A run is opened packet by packet up to the first that does not open; where all of
them open, their plaintexts are the whole plaintext cut into packets, and so any part of the run
opens to the part of the plaintext at the same place. -/

namespace SealGate.Vault.Packet

open Cipher

/-- What is known of a packet that opens. -/
theorem of_decode {stored plain : Bytes} {key : Key} {sequence : Nat}
    (h : decode stored key sequence = .ok plain) :
    sequence < 2 ^ 32 ∧ 0 < plain.length ∧ plain.length + 32 = stored.length := by
  simp only [decode] at h
  split at h
  · cases h
  split at h
  · cases h
  split at h
  · cases h
  split at h
  · cases h
  rename_i small long _ payload
  split at h
  · cases h
  split at h
  · cases h
  rename_i opened
  obtain rfl := Except.ok.inj h
  have length := Gcm.length_of_decrypt? opened
  rw [List.length_drop] at length
  omega

/-- The plaintexts of consecutive packets up to the first one that does not open, and what is wrong
with that one. -/
def openFrom (key : Key) (first : Nat) (pieces : List Bytes) : List Bytes × Option Error :=
  Http.untilError ((pieces.zipIdx first).map fun piece => decode piece.1 key piece.2)

variable {key : Key}

@[simp] theorem openFrom_nil (first : Nat) : openFrom key first [] = ([], none) := rfl

theorem openFrom_cons (first : Nat) (stored : Bytes) (rest : List Bytes) :
    openFrom key first (stored :: rest) =
      match decode stored key first with
      | .error error => ([], some error)
      | .ok plain =>
        (plain :: (openFrom key (first + 1) rest).1, (openFrom key (first + 1) rest).2) := by
  simp only [openFrom, List.zipIdx_cons, List.map_cons]
  cases decode stored key first <;> rfl

theorem openFrom_cons_iff {first : Nat} {stored : Bytes} {rest plains : List Bytes} :
    openFrom key first (stored :: rest) = (plains, none) ↔
      ∃ plain behind, decode stored key first = .ok plain ∧
        openFrom key (first + 1) rest = (behind, none) ∧ plain :: behind = plains := by
  rw [openFrom_cons]
  cases h : decode stored key first with
  | error error => simp
  | ok plain =>
    constructor
    · intro all
      obtain ⟨rfl, clean⟩ := Prod.mk.inj all
      exact ⟨plain, _, rfl, Prod.ext rfl clean, rfl⟩
    · rintro ⟨_, behind, same, run, rfl⟩
      obtain rfl := Except.ok.inj same
      rw [run]

/-- Every plaintext of a run is that of one of its packets. -/
theorem exists_of_mem_openFrom {first : Nat} {pieces : List Bytes} {plain : Bytes}
    (mem : plain ∈ (openFrom key first pieces).1) :
    ∃ stored ∈ pieces, ∃ place, decode stored key place = .ok plain := by
  induction pieces generalizing first with
  | nil => cases mem
  | cons stored rest ih =>
    rw [openFrom_cons] at mem
    cases opened : decode stored key first with
    | error error =>
      rw [opened] at mem
      cases mem
    | ok front =>
      rw [opened] at mem
      rcases List.mem_cons.1 mem with rfl | mem
      · exact ⟨stored, by simp, first, opened⟩
      · obtain ⟨other, held, place, opened⟩ := ih mem
        exact ⟨other, by simp [held], place, opened⟩

theorem openFrom_append (first : Nat) (front back : List Bytes) :
    openFrom key first (front ++ back) =
      match openFrom key first front with
      | (plains, some error) => (plains, some error)
      | (plains, none) =>
        (plains ++ (openFrom key (first + front.length) back).1,
          (openFrom key (first + front.length) back).2) := by
  induction front generalizing first with
  | nil => simp
  | cons stored front ih =>
    rw [List.cons_append, openFrom_cons, openFrom_cons, List.length_cons,
      show first + (front.length + 1) = first + 1 + front.length by omega]
    cases decode stored key first with
    | error error => rfl
    | ok plain =>
      simp only [ih]
      rcases openFrom key (first + 1) front with ⟨plains, _ | error⟩ <;> rfl

/-- A run opened as a whole is its plaintexts put together, or what is wrong with the first packet
that does not open. -/
theorem decodeFrom_eq (first : Nat) (pieces : List Bytes) :
    decodeFrom key first pieces =
      (openFrom key first pieces).2.elim (.ok (openFrom key first pieces).1.flatten) .error := by
  induction pieces generalizing first with
  | nil => rfl
  | cons stored rest ih =>
    rw [decodeFrom, openFrom_cons, ih]
    cases decode stored key first with
    | error error => rfl
    | ok plain => rcases openFrom key (first + 1) rest with ⟨plains, _ | error⟩ <;> rfl

/-- Opening a run as a whole succeeds when every packet opens. -/
theorem decodeFrom_ok_iff {first : Nat} {pieces : List Bytes} {plain : Bytes} :
    decodeFrom key first pieces = .ok plain ↔
      ∃ plains, openFrom key first pieces = (plains, none) ∧ plains.flatten = plain := by
  rw [decodeFrom_eq]
  rcases openFrom key first pieces with ⟨plains, _ | error⟩ <;> simp

/-- A run in two parts opens as the front part does and, behind that, as the back part does. -/
theorem decodeFrom_append (first : Nat) (front back : List Bytes) :
    decodeFrom key first (front ++ back) = do
      let plain ← decodeFrom key first front
      let behind ← decodeFrom key (first + front.length) back
      return plain ++ behind := by
  rw [decodeFrom_eq, decodeFrom_eq, decodeFrom_eq, openFrom_append]
  rcases openFrom key first front with ⟨plains, _ | error⟩
  · rcases openFrom key (first + front.length) back with ⟨others, _ | error⟩
    · exact congrArg Except.ok List.flatten_append
    · rfl
  · rfl

theorem openFrom_drop {first : Nat} {pieces plains : List Bytes}
    (h : openFrom key first pieces = (plains, none)) (count : Nat) :
    openFrom key (first + count) (pieces.drop count) = (plains.drop count, none) := by
  induction count generalizing first pieces plains with
  | zero => exact h
  | succ count ih =>
    cases pieces with
    | nil =>
      obtain ⟨rfl, -⟩ := Prod.mk.inj h
      simp
    | cons stored rest =>
      obtain ⟨plain, behind, -, run, rfl⟩ := openFrom_cons_iff.1 h
      rw [List.drop_succ_cons, List.drop_succ_cons, ← ih run,
        show first + (count + 1) = first + 1 + count by omega]

theorem openFrom_take {first : Nat} {pieces plains : List Bytes}
    (h : openFrom key first pieces = (plains, none)) (count : Nat) :
    openFrom key first (pieces.take count) = (plains.take count, none) := by
  induction count generalizing first pieces plains with
  | zero => rfl
  | succ count ih =>
    cases pieces with
    | nil =>
      obtain ⟨rfl, -⟩ := Prod.mk.inj h
      simp
    | cons stored rest =>
      obtain ⟨plain, behind, opened, run, rfl⟩ := openFrom_cons_iff.1 h
      exact openFrom_cons_iff.2 ⟨plain, behind.take count, opened, ih run, rfl⟩

/-- Each packet takes 32 bytes more than its plaintext. -/
theorem length_of_openFrom {first : Nat} {pieces plains : List Bytes}
    (h : openFrom key first pieces = (plains, none)) :
    plains.flatten.length + 32 * pieces.length = pieces.flatten.length := by
  induction pieces generalizing first plains with
  | nil =>
    obtain ⟨rfl, -⟩ := Prod.mk.inj h
    rfl
  | cons stored rest ih =>
    obtain ⟨plain, behind, opened, run, rfl⟩ := openFrom_cons_iff.1 h
    have here := (of_decode opened).2.2
    have others := ih run
    simp only [List.flatten_cons, List.length_append, List.length_cons]
    omega

/-- Stored packets cut at full size hold plaintexts cut at full size. -/
theorem isCut_of_openFrom {first : Nat} {pieces plains : List Bytes}
    (h : openFrom key first pieces = (plains, none))
    (cut : Bytes.IsCut storedPacketSize pieces) : Bytes.IsCut packetSize plains := by
  induction pieces generalizing first plains with
  | nil =>
    obtain ⟨rfl, -⟩ := Prod.mk.inj h
    trivial
  | cons stored rest ih =>
    obtain ⟨plain, behind, opened, run, rfl⟩ := openFrom_cons_iff.1 h
    obtain ⟨-, some, length⟩ := of_decode opened
    have size : storedPacketSize = packetSize + 32 := rfl
    cases rest with
    | nil =>
      obtain ⟨rfl, -⟩ := Prod.mk.inj run
      have bound := cut.2
      exact ⟨some, by omega⟩
    | cons next rest =>
      have full := cut.1
      exact Bytes.IsCut.cons (by omega) packetSize_pos (ih run cut.2)

/-! ### A whole run -/

variable {stored plain : Bytes} {first : Nat}

/-- A run that opens holds its plaintext cut into packets. -/
theorem openFrom_of_decodeAll (h : decodeAll stored key first = .ok plain) :
    openFrom key first (Bytes.chunks storedPacketSize stored) =
      (Bytes.chunks packetSize plain, none) := by
  obtain ⟨plains, run, rfl⟩ := decodeFrom_ok_iff.1 h
  have cut := isCut_of_openFrom run (Bytes.isCut_chunks storedPacketSize_pos stored)
  rw [run, Bytes.chunks_flatten packetSize_pos cut]

/-- Any whole number of packets of a run opens to the plaintext at their place. -/
theorem openFrom_slice (h : decodeAll stored key first = .ok plain) (packet count : Nat) :
    openFrom key (first + packet) (Bytes.chunks storedPacketSize
        ((stored.drop (storedPacketSize * packet)).take (storedPacketSize * count))) =
      (Bytes.chunks packetSize ((plain.drop (packetSize * packet)).take (packetSize * count)),
        none) := by
  rw [Bytes.chunks_take storedPacketSize_pos, Bytes.chunks_drop storedPacketSize_pos,
    Bytes.chunks_take packetSize_pos, Bytes.chunks_drop packetSize_pos]
  exact openFrom_take (openFrom_drop (openFrom_of_decodeAll h) packet) count

/-- A packet of a run opens to the plaintext at its place. -/
theorem decode_slice (h : decodeAll stored key first = .ok plain) {packet : Nat}
    (held : storedPacketSize * packet < stored.length) :
    decode ((stored.drop (storedPacketSize * packet)).take storedPacketSize) key (first + packet) =
      .ok ((plain.drop (packetSize * packet)).take packetSize) := by
  have some : (stored.drop (storedPacketSize * packet)).take storedPacketSize ≠ [] := by
    have size := storedPacketSize_pos
    refine List.ne_nil_of_length_pos ?_
    rw [List.length_take, List.length_drop]
    omega
  have slice := openFrom_slice h packet 1
  rw [Nat.mul_one, Nat.mul_one,
    Bytes.chunks_of_le storedPacketSize_pos some (List.length_take_le _ _)] at slice
  obtain ⟨piece, behind, opened, none, same⟩ := openFrom_cons_iff.1 slice
  obtain ⟨rfl, -⟩ := Prod.mk.inj none
  rw [opened, ← Bytes.flatten_chunks packetSize_pos ((plain.drop _).take _), ← same]
  exact congrArg Except.ok (List.append_nil piece).symm

theorem length_of_decodeAll (h : decodeAll stored key first = .ok plain) :
    plain.length + 32 * Bytes.chunkCount storedPacketSize stored = stored.length := by
  obtain ⟨plains, run, rfl⟩ := decodeFrom_ok_iff.1 h
  have lengths := length_of_openFrom run
  rw [Bytes.length_chunks, Bytes.flatten_chunks storedPacketSize_pos] at lengths
  exact lengths

theorem length_le_chunkCount_of_decodeAll (h : decodeAll stored key first = .ok plain) :
    plain.length ≤ packetSize * Bytes.chunkCount storedPacketSize stored := by
  have lengths := length_of_decodeAll h
  have all := Bytes.length_le_chunkCount storedPacketSize_pos stored
  have full : storedPacketSize * Bytes.chunkCount storedPacketSize stored =
      packetSize * Bytes.chunkCount storedPacketSize stored +
        32 * Bytes.chunkCount storedPacketSize stored := Nat.add_mul _ _ _
  omega

/-- The places of a run that opens end at 2^32. -/
theorem place_le_of_decodeAll (h : decodeAll stored key first = .ok plain) (some : stored ≠ []) :
    first + Bytes.chunkCount storedPacketSize stored ≤ 2 ^ 32 := by
  have long := List.length_pos_iff.2 some
  have count : 0 < Bytes.chunkCount storedPacketSize stored :=
    (Bytes.lt_chunkCount_iff storedPacketSize_pos).2 (by omega)
  have last := decode_slice h ((Bytes.lt_chunkCount_iff storedPacketSize_pos).1
    (show Bytes.chunkCount storedPacketSize stored - 1 < _ by omega))
  have place := (of_decode last).1
  omega

/-- A place in the plaintext lies in a packet that is stored. -/
theorem stored_of_decodeAll (h : decodeAll stored key first = .ok plain) (packet : Nat)
    (inside : packetSize * packet < plain.length) :
    storedPacketSize * packet < stored.length := by
  have most := length_le_chunkCount_of_decodeAll h
  exact (Bytes.lt_chunkCount_iff storedPacketSize_pos).1
    (Nat.lt_of_mul_lt_mul_left (Nat.lt_of_lt_of_le inside most))

/-- The first packet of a run holds the first piece of its plaintext. -/
theorem decode_first (h : decodeAll stored key first = .ok plain) (some : plain ≠ []) :
    decode (stored.take storedPacketSize) key first = .ok (plain.take packetSize) := by
  have long := List.length_pos_iff.2 some
  exact decode_slice h (stored_of_decodeAll h 0 (by omega))

/-- A run from the start has at most 2^32 packets. -/
theorem length_le_of_decodeAll (h : decodeAll stored key 0 = .ok plain) :
    plain.length ≤ packetSize * 2 ^ 32 := by
  by_cases none : stored = []
  · have lengths := length_of_decodeAll h
    rw [none, List.length_nil] at lengths
    omega
  · have places := place_le_of_decodeAll h none
    rw [Nat.zero_add] at places
    exact Nat.le_trans (length_le_chunkCount_of_decodeAll h) (Nat.mul_le_mul_left _ places)

end SealGate.Vault.Packet
