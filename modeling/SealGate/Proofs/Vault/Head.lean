import SealGate.Proofs.Outcome
import SealGate.Proofs.Vault.PacketRun
import SealGate.Vault.StoredFile

/-! The two ways to open a stored object agree. A header is read from the first 256 bytes alone and
the metadata from the first 32768 bytes of the plaintext; so the head that is opened from a piece of
the object with the header and one packet in it is that of the whole object. -/

namespace SealGate.Vault

open Outcome

namespace Header

/-- A header is read from the first bytes of an object. -/
theorem parse_take (data : Bytes) {count : Nat} (enough : maxLength ≤ count) :
    parse (data.take count) = parse data := by
  rcases Nat.le_total data.length count with short | long
  · rw [List.take_of_length_le short]
  have most : maxLength = 256 := rfl
  have size : (data.take count).length = count := List.length_take_of_le long
  have front : (data.take count).take 2 = data.take 2 := by
    rw [List.take_take, Nat.min_eq_left (by omega)]
  simp only [parse, size, front, List.drop_take]
  rw [if_neg (show ¬ count < 3 by omega), if_neg (show ¬ data.length < 3 by omega)]
  by_cases bad : Bytes.littleEndian (data.take 2) = 0 ∨
      maxLength < Bytes.littleEndian (data.take 2) + 2
  · rw [if_pos (bad.imp_right .inl), if_pos (bad.imp_right .inl)]
  · rw [if_neg (by omega), if_neg (by omega), List.take_take, Nat.min_eq_left (by omega)]

/-- What is known of a header that is read. -/
theorem of_parse {data : Bytes} {header : Header} (h : parse data = .ok header) :
    2 < header.length ∧ header.length ≤ maxLength ∧ header.length ≤ data.length ∧
      header.version ≤ maxVersion ∧ header.wrappedKey ≠ [] := by
  simp only [parse] at h
  split at h
  · cases h
  split at h
  · cases h
  rename_i short
  split at h
  · cases h
  split at h
  · cases h
  rename_i known
  split at h
  · cases h
  rename_i held
  obtain rfl := Except.ok.inj h
  have version := UInt16.not_lt.1 known
  refine ⟨?_, ?_, ?_, version, held⟩ <;> simp only <;> omega

end Header

namespace FileInfo

/-- The metadata is read from the first bytes of a plaintext. -/
theorem split_take (plain : Bytes) {count : Nat} (enough : maxLength + 2 ≤ count) :
    split (plain.take count) = split plain := by
  rcases Nat.le_total plain.length count with short | long
  · rw [List.take_of_length_le short]
  have most : maxLength = 32766 := rfl
  have size : (plain.take count).length = count := List.length_take_of_le long
  have front : (plain.take count).take 2 = plain.take 2 := by
    rw [List.take_take, Nat.min_eq_left (by omega)]
  simp only [split, size, front, List.drop_take]
  rw [if_neg (show ¬ count < 2 by omega), if_neg (show ¬ plain.length < 2 by omega)]
  by_cases bad : maxLength < Bytes.littleEndian (plain.take 2)
  · rw [if_pos (.inl bad), if_pos (.inl bad)]
  · have near : ¬ (maxLength < Bytes.littleEndian (plain.take 2) ∨
        count < Bytes.littleEndian (plain.take 2) + 2) := by omega
    have far : ¬ (maxLength < Bytes.littleEndian (plain.take 2) ∨
        plain.length < Bytes.littleEndian (plain.take 2) + 2) := by omega
    rw [if_neg near, if_neg far, List.take_take, Nat.min_eq_left (by omega)]

theorem of_split {plain : Bytes} {info : FileInfo} {length : Nat}
    (h : split plain = .ok (info, length)) :
    2 ≤ length ∧ length ≤ maxLength + 2 ∧ length ≤ plain.length := by
  simp only [split] at h
  split at h
  · cases h
  split at h
  · cases h
  rename_i long fits
  split at h
  · obtain ⟨rfl, rfl⟩ := Prod.mk.inj (Except.ok.inj h)
    omega
  split at h
  · cases h
  · obtain ⟨rfl, rfl⟩ := Prod.mk.inj (Except.ok.inj h)
    omega

end FileInfo

theorem StoredFile.decode_ok_iff {data : Bytes} {master : MasterKey} {file : StoredFile} :
    decode data master = .ok file ↔
      ∃ key plain, Header.parse data = .ok file.header ∧ file.header.unwrap master = .ok key ∧
        Packet.decodeAll (data.drop file.header.length) key 0 = .ok plain ∧
        FileInfo.split plain = .ok (file.info, file.infoLength) ∧
        plain.drop file.infoLength = file.content := by
  simp only [decode, bind_eq_ok, pure_eq_ok, Prod.exists]
  constructor
  · rintro ⟨header, parsed, key, unwrapped, plain, opened, info, length, split, rfl⟩
    exact ⟨key, plain, parsed, unwrapped, opened, split, rfl⟩
  · rintro ⟨key, plain, parsed, unwrapped, opened, split, content⟩
    refine ⟨_, parsed, key, unwrapped, plain, opened, _, _, split, ?_⟩
    rw [content]

theorem Head.decode_ok_iff {data : Bytes} {master : MasterKey} {head : Head} {key : Cipher.Key} :
    decode data master = .ok (head, key) ↔
      Header.parse data = .ok head.header ∧ head.header.unwrap master = .ok key ∧
        ∃ first, Packet.decode ((data.drop head.header.length).take storedPacketSize) key 0 =
            .ok first ∧
          FileInfo.split first = .ok (head.info, head.infoLength) := by
  simp only [decode, bind_eq_ok, pure_eq_ok, Prod.exists, Prod.mk.injEq]
  constructor
  · rintro ⟨header, parsed, key, unwrapped, first, opened, info, length, split, rfl, rfl⟩
    exact ⟨parsed, unwrapped, first, opened, split⟩
  · rintro ⟨parsed, unwrapped, first, opened, split⟩
    exact ⟨_, parsed, key, unwrapped, first, opened, _, _, split, rfl, rfl⟩

/-- The head is opened from the start of the object, if that has room for the longest header and a
packet; what is wrong with the object shows there too. -/
theorem Head.decode_take (object : Bytes) (master : MasterKey) {count : Nat}
    (enough : Header.maxLength + storedPacketSize ≤ count) :
    decode (object.take count) master = decode object master := by
  rw [decode, decode, Header.parse_take object (by omega)]
  cases parsed : Header.parse object with
  | error error => simp only [bind, Except.bind]
  | ok header =>
    have bound := (Header.of_parse parsed).2.1
    have packet : ((object.take count).drop header.length).take storedPacketSize =
        (object.drop header.length).take storedPacketSize := by
      rw [List.drop_take, List.take_take, Nat.min_eq_left (by omega)]
    simp only [bind, Except.bind, packet]

/-- The head of an object opened as a whole. -/
def StoredFile.head (file : StoredFile) : Head := ⟨file.header, file.info, file.infoLength⟩

namespace StoredFile

variable {object : Bytes} {master : MasterKey} {file : StoredFile}

/-- An object that opens as a whole gives its head with the first packet alone. -/
theorem head_of_decode (h : decode object master = .ok file) {key : Cipher.Key}
    (unwrapped : file.header.unwrap master = .ok key) :
    Head.decode object master = .ok (file.head, key) := by
  obtain ⟨own, plain, parsed, same, opened, split, -⟩ := decode_ok_iff.1 h
  obtain rfl : own = key := by
    rw [same] at unwrapped
    exact Except.ok.inj unwrapped
  have some : plain ≠ [] := by
    have long := FileInfo.of_split split
    exact List.ne_nil_of_length_pos (by omega)
  have first := FileInfo.split_take plain (show FileInfo.maxLength + 2 ≤ packetSize by decide)
  refine Head.decode_ok_iff.2 ⟨parsed, unwrapped, plain.take packetSize,
    Packet.decode_first opened some, ?_⟩
  rw [first]
  exact split

/-- The head can be opened from the start of the object, if that has room for the longest header and
a packet. -/
theorem decode_head (count : Nat) (enough : Header.maxLength + storedPacketSize ≤ count)
    (h : decode object master = .ok file) {key : Cipher.Key}
    (unwrapped : file.header.unwrap master = .ok key) :
    Head.decode (object.take count) master = .ok (file.head, key) := by
  rw [Head.decode_take object master enough, head_of_decode h unwrapped]

end StoredFile

end SealGate.Vault
