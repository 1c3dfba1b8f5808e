import SealGate.Bytes

/-! AES with 256-bit keys, forward direction only. A block is sixteen bytes, column by column. The
S-box is a table; the columns are mixed in the field of 256 elements. -/

namespace SealGate.Cipher

/-- A 256-bit key. -/
structure Key where
  bytes : Bytes
  length_eq : bytes.length = 32
  deriving DecidableEq

/-- The key with the given bytes, if there are 32 of them. -/
def Key.ofBytes? (bytes : Bytes) : Option Key :=
  if h : bytes.length = 32 then some ⟨bytes, h⟩ else none

theorem Key.ofBytes?_eq_some_iff {bytes : Bytes} {key : Key} :
    Key.ofBytes? bytes = some key ↔ key.bytes = bytes := by
  cases key with
  | mk bytes h =>
    simp only [Key.ofBytes?]
    constructor
    · intro hk
      split at hk
      · simpa using (Option.some.inj hk).symm
      · exact absurd hk (by simp)
    · rintro rfl
      simp [h]

theorem Key.ofBytes?_eq_none_iff {bytes : Bytes} :
    Key.ofBytes? bytes = none ↔ bytes.length ≠ 32 := by
  simp [Key.ofBytes?]

abbrev Block := Vector UInt8 16

namespace Aes

def boxRows : List Bytes :=
  [[0x63, 0x7c, 0x77, 0x7b, 0xf2, 0x6b, 0x6f, 0xc5, 0x30, 0x01, 0x67, 0x2b, 0xfe, 0xd7, 0xab, 0x76],
   [0xca, 0x82, 0xc9, 0x7d, 0xfa, 0x59, 0x47, 0xf0, 0xad, 0xd4, 0xa2, 0xaf, 0x9c, 0xa4, 0x72, 0xc0],
   [0xb7, 0xfd, 0x93, 0x26, 0x36, 0x3f, 0xf7, 0xcc, 0x34, 0xa5, 0xe5, 0xf1, 0x71, 0xd8, 0x31, 0x15],
   [0x04, 0xc7, 0x23, 0xc3, 0x18, 0x96, 0x05, 0x9a, 0x07, 0x12, 0x80, 0xe2, 0xeb, 0x27, 0xb2, 0x75],
   [0x09, 0x83, 0x2c, 0x1a, 0x1b, 0x6e, 0x5a, 0xa0, 0x52, 0x3b, 0xd6, 0xb3, 0x29, 0xe3, 0x2f, 0x84],
   [0x53, 0xd1, 0x00, 0xed, 0x20, 0xfc, 0xb1, 0x5b, 0x6a, 0xcb, 0xbe, 0x39, 0x4a, 0x4c, 0x58, 0xcf],
   [0xd0, 0xef, 0xaa, 0xfb, 0x43, 0x4d, 0x33, 0x85, 0x45, 0xf9, 0x02, 0x7f, 0x50, 0x3c, 0x9f, 0xa8],
   [0x51, 0xa3, 0x40, 0x8f, 0x92, 0x9d, 0x38, 0xf5, 0xbc, 0xb6, 0xda, 0x21, 0x10, 0xff, 0xf3, 0xd2],
   [0xcd, 0x0c, 0x13, 0xec, 0x5f, 0x97, 0x44, 0x17, 0xc4, 0xa7, 0x7e, 0x3d, 0x64, 0x5d, 0x19, 0x73],
   [0x60, 0x81, 0x4f, 0xdc, 0x22, 0x2a, 0x90, 0x88, 0x46, 0xee, 0xb8, 0x14, 0xde, 0x5e, 0x0b, 0xdb],
   [0xe0, 0x32, 0x3a, 0x0a, 0x49, 0x06, 0x24, 0x5c, 0xc2, 0xd3, 0xac, 0x62, 0x91, 0x95, 0xe4, 0x79],
   [0xe7, 0xc8, 0x37, 0x6d, 0x8d, 0xd5, 0x4e, 0xa9, 0x6c, 0x56, 0xf4, 0xea, 0x65, 0x7a, 0xae, 0x08],
   [0xba, 0x78, 0x25, 0x2e, 0x1c, 0xa6, 0xb4, 0xc6, 0xe8, 0xdd, 0x74, 0x1f, 0x4b, 0xbd, 0x8b, 0x8a],
   [0x70, 0x3e, 0xb5, 0x66, 0x48, 0x03, 0xf6, 0x0e, 0x61, 0x35, 0x57, 0xb9, 0x86, 0xc1, 0x1d, 0x9e],
   [0xe1, 0xf8, 0x98, 0x11, 0x69, 0xd9, 0x8e, 0x94, 0x9b, 0x1e, 0x87, 0xe9, 0xce, 0x55, 0x28, 0xdf],
   [0x8c, 0xa1, 0x89, 0x0d, 0xbf, 0xe6, 0x42, 0x68, 0x41, 0x99, 0x2d, 0x0f, 0xb0, 0x54, 0xbb, 0x16]]

/-- The S-box. -/
def box : Array UInt8 := boxRows.flatten.toArray

def substitute (b : UInt8) : UInt8 := box.getD b.toNat 0

/-- Multiplication by the element `x` of the field. -/
def double (b : UInt8) : UInt8 := (b <<< 1) ^^^ (if b &&& 0x80 = 0 then 0 else 0x1b)

/-- Substitutes every byte and rotates row `r` by `r` columns. -/
def shiftRows (s : Block) : Block := #v[
    substitute s[0], substitute s[5], substitute s[10], substitute s[15],
    substitute s[4], substitute s[9], substitute s[14], substitute s[3],
    substitute s[8], substitute s[13], substitute s[2], substitute s[7],
    substitute s[12], substitute s[1], substitute s[6], substitute s[11]]

/-- One byte of a mixed column: twice the first, three times the second, and the other two. -/
def mix (a b c d : UInt8) : UInt8 := double a ^^^ (double b ^^^ b) ^^^ c ^^^ d

def mixColumns (s : Block) : Block := #v[
    mix s[0] s[1] s[2] s[3], mix s[1] s[2] s[3] s[0],
    mix s[2] s[3] s[0] s[1], mix s[3] s[0] s[1] s[2],
    mix s[4] s[5] s[6] s[7], mix s[5] s[6] s[7] s[4],
    mix s[6] s[7] s[4] s[5], mix s[7] s[4] s[5] s[6],
    mix s[8] s[9] s[10] s[11], mix s[9] s[10] s[11] s[8],
    mix s[10] s[11] s[8] s[9], mix s[11] s[8] s[9] s[10],
    mix s[12] s[13] s[14] s[15], mix s[13] s[14] s[15] s[12],
    mix s[14] s[15] s[12] s[13], mix s[15] s[12] s[13] s[14]]

def addKey (s k : Block) : Block := Vector.zipWith (· ^^^ ·) s k

/-- The next four words of the schedule: the first is the word four places back changed by `seed`,
each other one the word eight places back changed by its neighbour. -/
def nextKey (old seed : Bytes) : Bytes :=
  let w0 := List.zipWith (· ^^^ ·) (old.take 4) seed
  let w1 := List.zipWith (· ^^^ ·) ((old.drop 4).take 4) w0
  let w2 := List.zipWith (· ^^^ ·) ((old.drop 8).take 4) w1
  let w3 := List.zipWith (· ^^^ ·) ((old.drop 12).take 4) w2
  w0 ++ w1 ++ w2 ++ w3

/-- A word turned by one byte, substituted, and changed by the round constant. -/
def turned (word : Bytes) (constant : UInt8) : Bytes :=
  match (word.drop 1 ++ word.take 1).map substitute with
  | b :: rest => (b ^^^ constant) :: rest
  | [] => []

/-- Round keys from a pair of earlier ones, two for each round constant. -/
def expand (even odd : Bytes) : List UInt8 → List Bytes
  | [] => []
  | constant :: rest =>
    let even' := nextKey even (turned (odd.drop 12) constant)
    let odd' := nextKey odd ((even'.drop 12).map substitute)
    even' :: odd' :: expand even' odd' rest

def blockOf (bytes : Bytes) : Block := Vector.ofFn fun i => bytes.getD i.val 0

/-- The fifteen round keys. -/
def roundKeys (key : Key) : List Block :=
  let even := key.bytes.take 16
  let odd := key.bytes.drop 16
  ((even :: odd :: expand even odd [0x01, 0x02, 0x04, 0x08, 0x10, 0x20, 0x40]).take 15).map blockOf

/-- The rounds after the first key was added; the last round does not mix the columns. -/
def rounds (s : Block) : List Block → Block
  | [] => s
  | [last] => addKey (shiftRows s) last
  | k :: rest => rounds (addKey (mixColumns (shiftRows s)) k) rest

def encrypt (keys : List Block) (block : Block) : Block :=
  match keys with
  | [] => block
  | first :: rest => rounds (addKey block first) rest

end Aes

end SealGate.Cipher
