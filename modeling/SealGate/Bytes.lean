import SealGate.Number.Saturating

/-! Byte strings. They can be read as little-endian numbers and, when they are valid UTF-8, as text.
Encoding a text and reading it back gives the same text. -/

namespace SealGate

abbrev Bytes := List UInt8

namespace Bytes

/-- The number whose little-endian digits to base 256 are the given bytes. -/
def littleEndian : Bytes → Nat
  | [] => 0
  | b :: rest => b.toNat + 256 * littleEndian rest

/-- The `count` lowest little-endian bytes of a number. -/
def ofLittleEndian : (count : Nat) → Nat → Bytes
  | 0, _ => []
  | count + 1, n => UInt8.ofNat n :: ofLittleEndian count (n / 256)

/-- The UTF-8 bytes of a text. -/
def ofText (text : String) : Bytes := text.toUTF8.data.toList

/-- The text a byte string spells in UTF-8, if it is valid UTF-8. -/
def text? (bytes : Bytes) : Option String := String.fromUTF8? ⟨bytes.toArray⟩

/-- The character that a byte string starts with in UTF-8, which takes at most four bytes. -/
def firstChar? (bytes : Bytes) : Option Char :=
  [1, 2, 3, 4].findSome? fun count => (text? (bytes.take count)).bind fun text => text.toList.head?

/-- The characters of a byte string in order, and `none` for each byte that belongs to none. -/
def charsFrom : (fuel : Nat) → Bytes → List (Option Char)
  | 0, _ => []
  | _, [] => []
  | fuel + 1, b :: rest =>
    match firstChar? (b :: rest) with
    | some c => some c :: charsFrom fuel ((b :: rest).drop c.utf8Size)
    | none => none :: charsFrom fuel rest

/-- The characters of a byte string, whether or not all of it is valid UTF-8. -/
def chars (bytes : Bytes) : List (Option Char) :=
  match text? bytes with
  | some text => text.toList.map some
  | none => charsFrom bytes.length bytes

/-- How many pieces of a given size cover a byte string. -/
def chunkCount (size : Nat) (bytes : Bytes) : Nat := (bytes.length + size - 1) / size

def chunksFrom (size : Nat) : (count : Nat) → Bytes → List Bytes
  | 0, _ => []
  | count + 1, bytes => bytes.take size :: chunksFrom size count (bytes.drop size)

/-- Consecutive pieces of a given size; only the last one may be shorter. -/
def chunks (size : Nat) (bytes : Bytes) : List Bytes :=
  chunksFrom size (chunkCount size bytes) bytes

theorem length_le_chunkCount {size : Nat} (h : 0 < size) (bytes : Bytes) :
    bytes.length ≤ size * chunkCount size bytes := by
  have split := Nat.div_add_mod (bytes.length + size - 1) size
  have small := Nat.mod_lt (bytes.length + size - 1) h
  simp only [chunkCount]
  omega

@[simp] theorem length_ofLittleEndian (count n : Nat) :
    (ofLittleEndian count n).length = count := by
  induction count generalizing n with
  | zero => rfl
  | succ count ih => simp [ofLittleEndian, ih]

theorem littleEndian_ofLittleEndian (count n : Nat) :
    littleEndian (ofLittleEndian count n) = n % 256 ^ count := by
  induction count generalizing n with
  | zero => simp [ofLittleEndian, littleEndian, Nat.mod_one]
  | succ count ih =>
    simp only [ofLittleEndian, littleEndian, ih, UInt8.toNat_ofNat']
    have split := @Nat.mod_mul 256 (256 ^ count) n
    rw [show 256 ^ (count + 1) = 256 * 256 ^ count from Nat.pow_succ']
    omega

@[simp] theorem text?_ofText (text : String) : text? (ofText text) = some text := by
  simp [text?, ofText, String.fromUTF8?, String.fromUTF8, String.toUTF8, text.isValidUTF8]

@[simp] theorem chars_ofText (text : String) : chars (ofText text) = text.toList.map some := by
  simp [chars]

end Bytes

end SealGate
