import SealGate.Cipher.Gcm
import SealGate.Cipher.Hkdf

/-! Sealed boxes: a nonce of twelve bytes, a ciphertext and its tag, with no further data. Keys are
kept in such boxes. A box that holds a master key is sealed under a key derived from a passphrase
and a salt of at least sixteen bytes. -/

namespace SealGate.Cipher.SealedBox

/-- The content of a box. -/
def open? (key : Key) (box : Bytes) : Option Bytes :=
  if box.length < 28 then none else Gcm.decrypt? key (box.take 12) [] (box.drop 12)

/-- A box with the given nonce and content. -/
def close (key : Key) (nonce content : Bytes) : Bytes := nonce ++ Gcm.encrypt key nonce [] content

def purpose : Bytes := Bytes.ofText "vaultgate-kek-v1"

def minSaltLength : Nat := 16

/-- The key that a passphrase and a salt give; none if the salt is too short. -/
def passphraseKey? (passphrase : String) (salt : Bytes) : Option Key :=
  if salt.length < minSaltLength then none
  else some ⟨hkdf salt (Bytes.ofText passphrase) purpose, length_hkdf _ _ _⟩

theorem length_close (key : Key) (nonce content : Bytes) :
    (close key nonce content).length = nonce.length + content.length + 16 := by
  rw [close, List.length_append, Gcm.length_encrypt, Nat.add_assoc]

/-- A box is twenty-eight bytes longer than its content. -/
theorem length_of_open? {key : Key} {box content : Bytes} (opened : open? key box = some content) :
    content.length + 28 = box.length := by
  rw [open?] at opened
  split at opened
  · cases opened
  · have plain := Gcm.length_of_decrypt? opened
    rw [List.length_drop] at plain
    omega

theorem open?_close (key : Key) (nonce content : Bytes) (h : nonce.length = 12) :
    open? key (close key nonce content) = some content := by
  have take : (nonce ++ Gcm.encrypt key nonce [] content).take 12 = nonce := by
    rw [← h]; simp
  have drop :
      (nonce ++ Gcm.encrypt key nonce [] content).drop 12 = Gcm.encrypt key nonce [] content := by
    rw [← h]; simp
  have long : ¬ (nonce ++ Gcm.encrypt key nonce [] content).length < 28 := by
    rw [List.length_append, Gcm.length_encrypt]; omega
  rw [open?, close, if_neg long, take, drop, Gcm.decrypt?_encrypt]

end SealGate.Cipher.SealedBox
