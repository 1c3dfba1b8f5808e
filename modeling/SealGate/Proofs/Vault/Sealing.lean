import SealGate.Proofs.Vault.PacketRun

/-! What was sealed opens. A packet opens to the plaintext it was made of, and only at the place it
was made for; a plaintext that is cut into packets and sealed piece by piece opens as a whole. -/

namespace SealGate.Vault.Packet

open Cipher

section One

variable {plain random : Bytes} {sequence : Nat} (key : Key)

theorem length_header (size : Nat) (eight : random.length = 8) :
    (header size sequence random).length = 16 := by
  simp [header, eight]

theorem encode_eq (plain : Bytes) (sequence : Nat) (random : Bytes) :
    encode plain key sequence random =
      header plain.length sequence random ++
        Gcm.encrypt key (((header plain.length sequence random).drop 4).take 12)
          ((header plain.length sequence random).take 4) plain := rfl

theorem length_encode (eight : random.length = 8) :
    (encode plain key sequence random).length = plain.length + 32 := by
  rw [encode_eq, List.length_append, length_header _ eight, Gcm.length_encrypt]
  omega

/-- The header of a packet is read back: its format bytes, the payload length less one and the
sequence number. -/
theorem header_fields (size sequence : Nat) (random sealed : Bytes) :
    (header size sequence random ++ sealed).take 2 = [0x20, 0] ∧
      ((header size sequence random ++ sealed).drop 2).take 2 = Bytes.ofLittleEndian 2 (size - 1) ∧
      ((header size sequence random ++ sealed).drop 4).take 4 =
        Bytes.ofLittleEndian 4 sequence := by
  have two : (Bytes.ofLittleEndian 2 (size - 1)).length = 2 := Bytes.length_ofLittleEndian _ _
  have four : (Bytes.ofLittleEndian 4 sequence).length = 4 := Bytes.length_ofLittleEndian _ _
  refine ⟨?_, ?_, ?_⟩
  · simp [header]
  · simp [header, two]
  · simp [header, two, four]

/-- A packet opens to its plaintext at its own place and is out of sequence at every other. -/
theorem decode_encode (some : plain ≠ []) (fits : plain.length ≤ packetSize)
    (eight : random.length = 8) (small : sequence < 2 ^ 32) {place : Nat} (low : place < 2 ^ 32) :
    decode (encode plain key sequence random) key place =
      if place = sequence then .ok plain else .error (.corrupted .packetSequence) := by
  have long := List.length_pos_iff.2 some
  have head : (header plain.length sequence random).length = 16 := length_header _ eight
  have size : packetSize = 65536 := rfl
  obtain ⟨format, length, number⟩ := header_fields plain.length sequence random
    (Gcm.encrypt key (((header plain.length sequence random).drop 4).take 12)
      ((header plain.length sequence random).take 4) plain)
  have payload : (encode plain key sequence random).drop 16 =
      Gcm.encrypt key (((header plain.length sequence random).drop 4).take 12)
        ((header plain.length sequence random).take 4) plain := by
    rw [encode_eq, List.drop_left' head]
  have nonce : ((encode plain key sequence random).drop 4).take 12 =
      ((header plain.length sequence random).drop 4).take 12 := by
    rw [encode_eq, List.drop_append_of_le_length (by omega),
      List.take_append_of_le_length (by rw [List.length_drop]; omega)]
  have data : (encode plain key sequence random).take 4 =
      (header plain.length sequence random).take 4 := by
    rw [encode_eq, List.take_append_of_le_length (by omega)]
  rw [decode, if_neg (by omega), if_neg (by rw [length_encode key eight]; omega), payload, nonce,
    data, Gcm.length_encrypt, Gcm.decrypt?_encrypt, encode_eq, format, length, number,
    Bytes.littleEndian_ofLittleEndian, Bytes.littleEndian_ofLittleEndian,
    Nat.mod_eq_of_lt (show plain.length - 1 < 256 ^ 2 by omega),
    Nat.mod_eq_of_lt (show sequence < 256 ^ 4 by omega), if_neg (by simp), if_neg (by omega)]
  by_cases here : place = sequence
  · rw [if_neg (by omega), if_pos here]
  · rw [if_pos (by omega), if_neg here]

/-- A packet opens at no place but its own, and there to its plaintext. -/
theorem of_decode_encode (some : plain ≠ []) (fits : plain.length ≤ packetSize)
    (eight : random.length = 8) (small : sequence < 2 ^ 32) {place : Nat} {opened : Bytes}
    (h : decode (encode plain key sequence random) key place = .ok opened) :
    place = sequence ∧ opened = plain := by
  rw [decode_encode key some fits eight small (of_decode h).1] at h
  split at h
  · rename_i here
    exact ⟨here, (Except.ok.inj h).symm⟩
  · cases h

end One

/-! ### Runs of packets -/

/-- A plaintext cut into packets that are sealed one after the other, each with random bytes of its
own. -/
def encodeAll (plain : Bytes) (key : Key) (random : Nat → Bytes) : Bytes :=
  (((Bytes.chunks packetSize plain).zipIdx).map fun piece =>
    encode piece.1 key piece.2 (random piece.2)).flatten

variable (key : Key) {random : Nat → Bytes}

theorem openFrom_encode (eight : ∀ place, (random place).length = 8) {pieces : List Bytes}
    (sizes : ∀ piece ∈ pieces, 0 < piece.length ∧ piece.length ≤ packetSize) {first : Nat}
    (few : first + pieces.length ≤ 2 ^ 32) :
    openFrom key first ((pieces.zipIdx first).map fun piece =>
      encode piece.1 key piece.2 (random piece.2)) = (pieces, none) := by
  induction pieces generalizing first with
  | nil => rfl
  | cons piece pieces ih =>
    obtain ⟨some, fits⟩ := sizes piece (by simp)
    rw [List.length_cons] at few
    have opened := decode_encode key (List.ne_nil_of_length_pos some) fits (eight first)
      (show first < 2 ^ 32 by omega) (show first < 2 ^ 32 by omega)
    rw [if_pos rfl] at opened
    rw [List.zipIdx_cons, List.map_cons]
    exact openFrom_cons_iff.2 ⟨piece, pieces, opened,
      ih (fun other mem => sizes other (by simp [mem])) (by omega), rfl⟩

theorem isCut_encode (eight : ∀ place, (random place).length = 8) {pieces : List Bytes}
    (cut : Bytes.IsCut packetSize pieces) (first : Nat) :
    Bytes.IsCut storedPacketSize ((pieces.zipIdx first).map fun piece =>
      encode piece.1 key piece.2 (random piece.2)) := by
  have size : storedPacketSize = packetSize + 32 := rfl
  induction pieces generalizing first with
  | nil => trivial
  | cons piece pieces ih =>
    have length : (encode piece key first (random first)).length = piece.length + 32 :=
      length_encode key (eight first)
    cases pieces with
    | nil =>
      obtain ⟨some, fits⟩ := cut
      exact ⟨by simp only; omega, by simp only; omega⟩
    | cons next pieces =>
      obtain ⟨full, rest⟩ := cut
      exact .cons (by simp only; omega) storedPacketSize_pos (ih rest (first + 1))

/-- What was sealed packet by packet opens as a whole. -/
theorem decodeAll_encodeAll {plain : Bytes} (eight : ∀ place, (random place).length = 8)
    (few : plain.length ≤ packetSize * 2 ^ 32) :
    decodeAll (encodeAll plain key random) key 0 = .ok plain := by
  have count : (Bytes.chunks packetSize plain).length ≤ 2 ^ 32 := by
    have size : packetSize = 65536 := rfl
    rw [Bytes.length_chunks, Bytes.chunkCount, size]
    omega
  have run := openFrom_encode key eight
    (fun piece mem => Bytes.length_of_mem_chunks packetSize_pos mem)
    (show 0 + (Bytes.chunks packetSize plain).length ≤ 2 ^ 32 by omega)
  have cut := isCut_encode key eight (Bytes.isCut_chunks packetSize_pos plain) 0
  rw [decodeAll, encodeAll, Bytes.chunks_flatten storedPacketSize_pos cut]
  exact decodeFrom_ok_iff.2 ⟨_, run, Bytes.flatten_chunks packetSize_pos plain⟩

end SealGate.Vault.Packet
