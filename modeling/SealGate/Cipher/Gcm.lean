import SealGate.Cipher.Aes

/-! Authenticated decryption: AES-256 in Galois/counter mode with 96-bit nonces and 128-bit tags.
The tag follows the ciphertext. A message is opened only if the tag of its ciphertext and of the
data that goes with it is the one received; its plaintext is sixteen bytes shorter than the message.
-/

namespace SealGate.Cipher.Gcm

/-- The number whose most significant bytes come first. -/
def bigEndian (bytes : Bytes) : Nat := bytes.foldl (fun n b => 256 * n + b.toNat) 0

/-- The sixteen bytes of a 128-bit number, most significant first. -/
def blockOfNat (n : Nat) : Block :=
  Vector.ofFn fun i => UInt8.ofNat (n / 256 ^ (15 - i.val))

/-- Product in the field of 2^128 elements, whose first coefficient is the most significant bit. -/
def product (x y : Nat) : Nat :=
  ((List.range 128).foldl
    (fun (z, v) i =>
      (if x.testBit (127 - i) then z ^^^ v else z,
        if v.testBit 0 then (v >>> 1) ^^^ (0xe1 <<< 120) else v >>> 1))
    (0, y)).1

/-- A group filled up with zeros, as a number. -/
def padded (group : Bytes) : Nat := bigEndian group * 256 ^ (16 - group.length)

def absorb (h : Nat) (state : Nat) (bytes : Bytes) : Nat :=
  (Bytes.chunks 16 bytes).foldl (fun y group => product (y ^^^ padded group) h) state

/-- The hash of the data that goes with a message, the ciphertext, and their lengths in bits. -/
def hash (h : Nat) (data ciphertext : Bytes) : Nat :=
  let state := absorb h (absorb h 0 data) ciphertext
  product (state ^^^ (8 * data.length * 2 ^ 64 + 8 * ciphertext.length)) h

def blockNat (block : Block) : Nat := bigEndian block.toList

/-- The counter block of a nonce. -/
def counter (nonce : Bytes) (n : Nat) : Block :=
  Aes.blockOf (nonce.take 12 ++ (Bytes.ofLittleEndian 4 n).reverse)

/-- The first bytes of the key stream, a whole number of blocks. -/
def keyStream (keys : List Block) (nonce : Bytes) (count : Nat) : Bytes :=
  (List.range count).flatMap fun i => (Aes.encrypt keys (counter nonce (i + 2))).toList

def applyStream (keys : List Block) (nonce : Bytes) (text : Bytes) : Bytes :=
  List.zipWith (· ^^^ ·) text (keyStream keys nonce (Bytes.chunkCount 16 text))

/-- The tag of a ciphertext and the data that goes with it. -/
def tag (keys : List Block) (nonce data ciphertext : Bytes) : Bytes :=
  let h := blockNat (Aes.encrypt keys (blockOfNat 0))
  let mask := blockNat (Aes.encrypt keys (counter nonce 1))
  (blockOfNat (hash h data ciphertext ^^^ mask)).toList

/-- Seals a plaintext: its ciphertext and the tag. -/
def encrypt (key : Key) (nonce data plaintext : Bytes) : Bytes :=
  let keys := Aes.roundKeys key
  let ciphertext := applyStream keys nonce plaintext
  ciphertext ++ tag keys nonce data ciphertext

/-- Opens a message, a ciphertext with its tag; `none` if the tag is not the right one. -/
def decrypt? (key : Key) (nonce data message : Bytes) : Option Bytes :=
  if message.length < 16 then none
  else
    let keys := Aes.roundKeys key
    let ciphertext := message.take (message.length - 16)
    if tag keys nonce data ciphertext = message.drop (message.length - 16) then
      some (applyStream keys nonce ciphertext)
    else none

theorem length_keyStream (keys : List Block) (nonce : Bytes) (count : Nat) :
    (keyStream keys nonce count).length = 16 * count := by
  simp [keyStream, List.length_flatMap, List.map_const', Nat.mul_comm]

@[simp] theorem length_applyStream (keys : List Block) (nonce text : Bytes) :
    (applyStream keys nonce text).length = text.length := by
  simp only [applyStream, List.length_zipWith, length_keyStream]
  exact Nat.min_eq_left (Bytes.length_le_chunkCount (by decide) text)

theorem length_tag (keys : List Block) (nonce data ciphertext : Bytes) :
    (tag keys nonce data ciphertext).length = 16 := by simp [tag]

theorem length_encrypt (key : Key) (nonce data plaintext : Bytes) :
    (encrypt key nonce data plaintext).length = plaintext.length + 16 := by
  simp [encrypt, length_tag]

/-- The plaintext is sixteen bytes shorter than the message. -/
theorem length_of_decrypt? {key : Key} {nonce data message plain : Bytes}
    (h : decrypt? key nonce data message = some plain) : plain.length + 16 = message.length := by
  simp only [decrypt?] at h
  split at h
  · exact absurd h (by simp)
  · split at h
    · rw [← Option.some.inj h]
      simp
      omega
    · exact absurd h (by simp)

theorem applyStream_applyStream (keys : List Block) (nonce text : Bytes) :
    applyStream keys nonce (applyStream keys nonce text) = text := by
  have undo : ∀ (a s : Bytes), a.length ≤ s.length →
      List.zipWith (· ^^^ ·) (List.zipWith (· ^^^ ·) a s) s = a := by
    intro a
    induction a with
    | nil => intro s _; simp
    | cons x a ih =>
      intro s hs
      cases s with
      | nil => simp at hs
      | cons y s =>
        have twice : (x ^^^ y) ^^^ y = x := by
          rw [UInt8.xor_assoc, UInt8.xor_self, UInt8.xor_zero]
        simp [ih s (by simpa using hs), twice]
  have same : Bytes.chunkCount 16 (applyStream keys nonce text) = Bytes.chunkCount 16 text := by
    simp [Bytes.chunkCount]
  rw [applyStream, same, applyStream]
  apply undo
  rw [length_keyStream]
  exact Bytes.length_le_chunkCount (by decide) text

/-- What was sealed opens to the plaintext. -/
theorem decrypt?_encrypt (key : Key) (nonce data plaintext : Bytes) :
    decrypt? key nonce data (encrypt key nonce data plaintext) = some plaintext := by
  simp [decrypt?, encrypt, length_tag, applyStream_applyStream]

end SealGate.Cipher.Gcm
