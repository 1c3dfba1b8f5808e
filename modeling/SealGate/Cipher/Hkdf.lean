import SealGate.Cipher.Sha256

/-! Key derivation: HMAC and HKDF with SHA-256. One expansion block is 32 bytes, the size of a key.
-/

namespace SealGate.Cipher

/-- Keys longer than a block are hashed first; shorter ones are filled up with zeros. -/
def hmacBlock (key : Bytes) : Bytes :=
  let short := if 64 < key.length then Sha256.digest key else key
  short ++ List.replicate (64 - short.length) 0

def hmac (key message : Bytes) : Bytes :=
  let block := hmacBlock key
  Sha256.digest (block.map (· ^^^ 0x5c) ++ Sha256.digest (block.map (· ^^^ 0x36) ++ message))

/-- The first 32 bytes that HKDF expands from key material, a salt and a purpose. -/
def hkdf (salt material purpose : Bytes) : Bytes := hmac (hmac salt material) (purpose ++ [1])

@[simp] theorem length_hmac (key message : Bytes) : (hmac key message).length = 32 := by simp [hmac]

@[simp] theorem length_hkdf (salt material purpose : Bytes) :
    (hkdf salt material purpose).length = 32 := by simp [hkdf]

end SealGate.Cipher
