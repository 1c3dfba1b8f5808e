import SealGate.Proofs.Vault.Framing
import SealGate.Proofs.Vault.Head

/-! Records behind their length, read from bytes that may hold anything. What was written is read
back up to the longest record that a frame may have. Conversely, a frame that is accepted lies
within the bytes and within its own limit, and a header is read from nothing but the first 256
bytes. So a stored object is never cut outside its bounds: with every cut checked it opens to the
same. -/

namespace SealGate

namespace Bytes

/-- The bytes between two places, if these are in order and lie within. -/
def slice? (first stop : Nat) (bytes : Bytes) : Option Bytes :=
  if first ≤ stop ∧ stop ≤ bytes.length then some ((bytes.take stop).drop first) else none

variable {bytes : Bytes} {first : Nat}

theorem slice?_tail (inside : first ≤ bytes.length) :
    bytes.slice? first bytes.length = some (bytes.drop first) := by
  rw [slice?, if_pos ⟨inside, Nat.le_refl _⟩, List.take_length]

/-- A piece of a given size that is cut off at the end. -/
theorem slice?_piece (inside : first ≤ bytes.length) (size : Nat) :
    bytes.slice? (min first (min bytes.length (first + size))) (min bytes.length (first + size)) =
      some ((bytes.drop first).take size) := by
  have start : min first (min bytes.length (first + size)) = first := by omega
  rw [start, slice?, if_pos ⟨by omega, Nat.min_le_left _ _⟩, List.drop_take]
  congr 1
  rcases Nat.le_total bytes.length (first + size) with short | long
  · rw [Nat.min_eq_left short, List.take_of_length_le (by rw [List.length_drop]),
      List.take_of_length_le (by rw [List.length_drop]; omega)]
  · rw [Nat.min_eq_right long, Nat.add_sub_cancel_left]

end Bytes

namespace Vault

open Json Outcome

/-! ### Opening with every cut checked -/

/-- Opens an object as a whole, or has no result if something is cut outside its bounds. -/
def StoredFile.decodeChecked (data : Bytes) (master : MasterKey) :
    ExceptT Error Option StoredFile := do
  let header ← Header.parse data
  let key ← header.unwrap master
  let packets ← data.slice? header.length data.length
  let plain ← Packet.decodeAll packets key 0
  let (info, infoLength) ← FileInfo.split plain
  let content ← plain.slice? infoLength plain.length
  return ⟨header, info, infoLength, content⟩

/-- Opens the head of an object, or has no result if something is cut outside its bounds. -/
def Head.decodeChecked (data : Bytes) (master : MasterKey) :
    ExceptT Error Option (Head × Cipher.Key) := do
  let header ← Header.parse data
  let key ← header.unwrap master
  let stop := min data.length (header.length + storedPacketSize)
  let packet ← data.slice? (min header.length stop) stop
  let first ← Packet.decode packet key 0
  let (info, infoLength) ← FileInfo.split first
  return (⟨header, info, infoLength⟩, key)

section Opening

variable (data : Bytes) (master : MasterKey)

theorem StoredFile.run_decodeChecked :
    (decodeChecked data master).run = some (decode data master) := by
  refine run_bind rfl fun header parsed => ?_
  refine run_bind rfl fun key _ => ?_
  obtain ⟨-, -, inside, -⟩ := Header.of_parse parsed
  rw [run_bind_of_some (Bytes.slice?_tail inside)]
  refine run_bind rfl fun plain _ => ?_
  refine run_bind rfl fun found split => ?_
  obtain ⟨-, -, inside⟩ := FileInfo.of_split split
  rw [run_bind_of_some (Bytes.slice?_tail inside)]
  rfl

theorem Head.run_decodeChecked :
    (decodeChecked data master).run = some (decode data master) := by
  refine run_bind rfl fun header parsed => ?_
  refine run_bind rfl fun key _ => ?_
  obtain ⟨-, -, inside, -⟩ := Header.of_parse parsed
  simp only
  rw [run_bind_of_some (Bytes.slice?_piece inside storedPacketSize)]
  refine run_bind rfl fun first _ => ?_
  exact run_bind rfl fun found split => rfl

end Opening

/-! ### Frames -/

/-- What is known of a header that was read from some bytes. -/
structure Header.IsWithin (header : Header) (data : Bytes) : Prop where
  long : 3 ≤ header.length
  short : header.length ≤ min 256 data.length
  version : header.version ≤ 2
  wrappedKey : header.wrappedKey ≠ []

theorem Header.isWithin_of_parse {data : Bytes} {header : Header} (h : parse data = .ok header) :
    header.IsWithin data := by
  obtain ⟨long, most, inside, version, held⟩ := of_parse h
  exact ⟨long, Nat.le_min.2 ⟨most, inside⟩, version, held⟩

/-- Nothing behind the first bytes of an object changes how its header is read. -/
theorem Header.parse_congr {data other : Bytes} (same : data.take 256 = other.take 256) :
    parse data = parse other := by
  rw [← parse_take data (Nat.le_refl 256), same, parse_take other (Nat.le_refl 256)]

/-- Headers and metadata are read back as they were framed, with anything behind them, up to the
longest record that each may have. What is read of arbitrary bytes keeps within them and within
the same limits, a header is known from the first 256 bytes, and no object, however it is made, is
cut outside its bounds when it is opened. -/
theorem frames_keep_bounds :
    (∀ (version : UInt16) (wrappedKey rest : Bytes), version ≤ 2 → wrappedKey ≠ [] →
      (Header.recordNode version wrappedKey).toBytes.length ≤ 254 →
      Header.parse (framed (Header.recordNode version wrappedKey) ++ rest) =
        .ok ⟨version, (Header.recordNode version wrappedKey).toBytes.length + 2, wrappedKey⟩) ∧
    (∀ (info : FileInfo) (content : Bytes), info.toNode.toBytes.length ≤ 32766 →
      FileInfo.split (framed info.toNode ++ content) =
        .ok (info, info.toNode.toBytes.length + 2)) ∧
    (∀ data other : Bytes, data.take 256 = other.take 256 →
      Header.parse data = Header.parse other) ∧
    (∀ data header, Header.parse data = .ok header → header.IsWithin data) ∧
    (∀ plain info length, FileInfo.split plain = .ok (info, length) →
      2 ≤ length ∧ length ≤ min 32768 plain.length) ∧
    ∀ data master,
      (StoredFile.decodeChecked data master).run = some (StoredFile.decode data master) ∧
      (Head.decodeChecked data master).run = some (Head.decode data master) := by
  refine ⟨?_, ?_, ?_, ?_, ?_, ?_⟩
  · intro version wrappedKey rest known held fits
    exact Header.parse_framed known held (Nat.add_le_add_right fits 2) rest
  · intro info content fits
    exact info.split_framed fits content
  · intro data other same
    exact Header.parse_congr same
  · intro data header parsed
    exact Header.isWithin_of_parse parsed
  · intro plain info length split
    obtain ⟨long, most, inside⟩ := FileInfo.of_split split
    exact ⟨long, Nat.le_min.2 ⟨most, inside⟩⟩
  · intro data master
    exact ⟨StoredFile.run_decodeChecked data master, Head.run_decodeChecked data master⟩

end Vault

end SealGate
