import Mathlib.Logic.Relation
import SealGate.Vault.KeySlot

/-! Unlocking a repository. A slot opens with a passphrase if its salt is long enough, its box opens
under the key that the two give, and the box holds a key. The first slot that opens is taken; those
that do not open are passed over, whatever is wrong with them, and those behind it are not looked
at. -/

namespace SealGate.Vault

open Cipher

theorem length_derived (passphrase : String) (salt : Bytes) :
    (hkdf salt (Bytes.ofText passphrase) SealedBox.purpose).length = 32 := length_hkdf _ _ _

/-- The key that a passphrase and a salt give. -/
def derivedKey (passphrase : String) (salt : Bytes) : Key :=
  ⟨hkdf salt (Bytes.ofText passphrase) SealedBox.purpose, length_derived passphrase salt⟩

namespace KeySlot

/-- A slot gives up a master key for a passphrase. -/
structure Opens (slot : KeySlot) (passphrase : String) (key : Bytes) : Prop where
  salt : 16 ≤ slot.salt.length
  unsealed : SealedBox.open? (derivedKey passphrase slot.salt) slot.wrappedKey = some key
  length : key.length = 32

/-- A slot gives up nothing for a passphrase. -/
def IsShut (slot : KeySlot) (passphrase : String) : Prop := ∀ key, ¬ slot.Opens passphrase key

variable {slot : KeySlot} {passphrase : String}

theorem open?_eq_some_iff {key : Key} :
    slot.open? passphrase = some key ↔ slot.Opens passphrase key.bytes := by
  have least : SealedBox.minSaltLength = 16 := rfl
  simp only [open?, SealedBox.passphraseKey?, Option.bind_eq_bind, Option.bind_eq_some_iff,
    Key.ofBytes?_eq_some_iff]
  constructor
  · rintro ⟨derived, salted, content, unsealed, same⟩
    split at salted
    · cases salted
    · cases salted
      exact ⟨by omega, same ▸ unsealed, key.length_eq⟩
  · rintro ⟨salt, unsealed, -⟩
    exact ⟨_, if_neg (by omega), key.bytes, unsealed, rfl⟩

/-- What a slot that opens makes of a repository. -/
def offer? (slot : KeySlot) (passphrase : String) : Option UnlockedKey :=
  (slot.open? passphrase).map fun key => ⟨⟨key.bytes⟩, slot.keyId⟩

theorem offer?_eq_some_iff {unlocked : UnlockedKey} :
    slot.offer? passphrase = some unlocked ↔
      slot.Opens passphrase unlocked.key.bytes ∧ unlocked.keyId = slot.keyId := by
  obtain ⟨⟨bytes⟩, keyId⟩ := unlocked
  rw [offer?, Option.map_eq_some_iff]
  constructor
  · rintro ⟨key, opened, same⟩
    cases same
    exact ⟨open?_eq_some_iff.1 opened, rfl⟩
  · rintro ⟨opens, rfl⟩
    exact ⟨⟨bytes, opens.length⟩, open?_eq_some_iff.2 opens, rfl⟩

theorem Opens.offer?_eq {key : Bytes} (opens : slot.Opens passphrase key) :
    slot.offer? passphrase = some ⟨⟨key⟩, slot.keyId⟩ := offer?_eq_some_iff.2 ⟨opens, rfl⟩

theorem offer?_eq_none_iff : slot.offer? passphrase = none ↔ slot.IsShut passphrase := by
  constructor
  · intro none key opens
    rw [opens.offer?_eq] at none
    cases none
  · intro shut
    cases offered : slot.offer? passphrase with
    | none => rfl
    | some unlocked => exact absurd (offer?_eq_some_iff.1 offered).1 (shut _)

/-- A salt that is too short, or a box that cannot hold a key, shuts a slot for every passphrase. -/
theorem isShut_of_length (wrong : slot.salt.length < 16 ∨ slot.wrappedKey.length ≠ 60) :
    slot.IsShut passphrase := by
  rintro key ⟨salt, unsealed, length⟩
  have box := SealedBox.length_of_open? unsealed
  omega

/-- A slot with the given content for a passphrase. -/
def made (keyId passphrase : String) (salt nonce content : Bytes) : KeySlot :=
  ⟨keyId, salt, SealedBox.close (derivedKey passphrase salt) nonce content⟩

theorem opens_made (keyId passphrase : String) {salt nonce key : Bytes} (long : 16 ≤ salt.length)
    (twelve : nonce.length = 12) (length : key.length = 32) :
    (made keyId passphrase salt nonce key).Opens passphrase key :=
  ⟨long, SealedBox.open?_close _ _ _ twelve, length⟩

theorem length_made (keyId passphrase : String) (salt nonce content : Bytes) :
    (made keyId passphrase salt nonce content).wrappedKey.length =
      nonce.length + content.length + 16 := SealedBox.length_close _ _ _

end KeySlot

namespace Repository

variable {passphrase : String}

theorem unlock_of_supported {info : Repository} (supported : info.version = 1) :
    info.unlock passphrase =
      match info.slots.findSome? (KeySlot.offer? · passphrase) with
      | some unlocked => .ok unlocked
      | none => .error .invalidPassphrase := by
  have known : info.version = supportedVersion := supported
  rw [unlock, if_neg (not_not_intro known)]
  rfl

/-- A change to the slots that has nothing to do with the first one that opens: a slot that stays
shut comes, goes or is replaced, or what is behind a slot that opens is. -/
inductive IsAside (passphrase : String) : List KeySlot → List KeySlot → Prop
  | inserted {slot : KeySlot} (before behind : List KeySlot) : slot.IsShut passphrase →
      IsAside passphrase (before ++ behind) (before ++ slot :: behind)
  | deleted {slot : KeySlot} (before behind : List KeySlot) : slot.IsShut passphrase →
      IsAside passphrase (before ++ slot :: behind) (before ++ behind)
  | replaced {slot other : KeySlot} (before behind : List KeySlot) : slot.IsShut passphrase →
      other.IsShut passphrase →
      IsAside passphrase (before ++ slot :: behind) (before ++ other :: behind)
  | behind {slot : KeySlot} {key : Bytes} (before rest others : List KeySlot) :
      slot.Opens passphrase key →
      IsAside passphrase (before ++ slot :: rest) (before ++ slot :: others)

theorem findSome?_shut {slot : KeySlot} (shut : slot.IsShut passphrase)
    (before behind : List KeySlot) :
    (before ++ slot :: behind).findSome? (KeySlot.offer? · passphrase) =
      (before ++ behind).findSome? (KeySlot.offer? · passphrase) := by
  rw [List.findSome?_append, List.findSome?_append, List.findSome?_cons,
    KeySlot.offer?_eq_none_iff.2 shut]

theorem IsAside.findSome?_eq {slots others : List KeySlot} (aside : IsAside passphrase slots others) :
    others.findSome? (KeySlot.offer? · passphrase) =
      slots.findSome? (KeySlot.offer? · passphrase) := by
  cases aside with
  | inserted before behind shut => exact findSome?_shut shut before behind
  | deleted before behind shut => exact (findSome?_shut shut before behind).symm
  | replaced before behind shut stays =>
    exact (findSome?_shut stays before behind).trans (findSome?_shut shut before behind).symm
  | behind before rest others opens =>
    rw [List.findSome?_append, List.findSome?_append, List.findSome?_cons, List.findSome?_cons,
      opens.offer?_eq]

/-- No number of such changes changes what is found. -/
theorem findSome?_of_asides {slots others : List KeySlot}
    (asides : Relation.ReflTransGen (IsAside passphrase) slots others) :
    others.findSome? (KeySlot.offer? · passphrase) =
      slots.findSome? (KeySlot.offer? · passphrase) := by
  induction asides with
  | refl => rfl
  | tail _ aside ih => exact aside.findSome?_eq.trans ih

section Supported

variable {info : Repository} (supported : info.version = 1)

include supported

theorem unlock_eq_ok_iff {unlocked : UnlockedKey} :
    info.unlock passphrase = .ok unlocked ↔
      ∃ before slot behind, info.slots = before ++ slot :: behind ∧
        (∀ other ∈ before, other.IsShut passphrase) ∧
        slot.Opens passphrase unlocked.key.bytes ∧ unlocked.keyId = slot.keyId := by
  have found : info.unlock passphrase = .ok unlocked ↔
      info.slots.findSome? (KeySlot.offer? · passphrase) = some unlocked := by
    rw [unlock_of_supported supported]
    cases info.slots.findSome? (KeySlot.offer? · passphrase) with
    | none => simp only [reduceCtorEq]
    | some first => simp only [Except.ok.injEq, Option.some.injEq]
  rw [found, List.findSome?_eq_some_iff]
  simp only [KeySlot.offer?_eq_some_iff, KeySlot.offer?_eq_none_iff]
  constructor
  · rintro ⟨before, slot, behind, whole, taken, shut⟩
    exact ⟨before, slot, behind, whole, shut, taken⟩
  · rintro ⟨before, slot, behind, whole, shut, taken⟩
    exact ⟨before, slot, behind, whole, taken, shut⟩

theorem unlock_eq_invalid_iff :
    info.unlock passphrase = .error .invalidPassphrase ↔
      ∀ slot ∈ info.slots, slot.IsShut passphrase := by
  have found : info.unlock passphrase = .error .invalidPassphrase ↔
      info.slots.findSome? (KeySlot.offer? · passphrase) = none := by
    rw [unlock_of_supported supported]
    cases info.slots.findSome? (KeySlot.offer? · passphrase) with
    | none => simp only
    | some first => simp only [reduceCtorEq]
  rw [found, List.findSome?_eq_none_iff]
  simp only [KeySlot.offer?_eq_none_iff]

theorem unlock_of_asides {slots : List KeySlot}
    (asides : Relation.ReflTransGen (IsAside passphrase) info.slots slots) :
    { info with slots }.unlock passphrase = info.unlock passphrase := by
  have same : { info with slots }.version = 1 := supported
  rw [unlock_of_supported supported, unlock_of_supported same, findSome?_of_asides asides]

end Supported

/-- A passphrase unlocks a repository of the version that is known with the first slot that it opens,
and is invalid when it opens none; slots that stay shut, and all behind the first that opens, make no
difference. Slots with a short salt or a box of the wrong size always stay shut. A repository of any
other version is refused, whatever its slots are. -/
theorem unlock_takes_first_opening (info : Repository) (passphrase : String) :
    (info.version = 1 →
      (∀ unlocked, info.unlock passphrase = .ok unlocked ↔
        ∃ before slot behind, info.slots = before ++ slot :: behind ∧
          (∀ other ∈ before, other.IsShut passphrase) ∧
          slot.Opens passphrase unlocked.key.bytes ∧ unlocked.keyId = slot.keyId) ∧
      (info.unlock passphrase = .error .invalidPassphrase ↔
        ∀ slot ∈ info.slots, slot.IsShut passphrase) ∧
      ∀ slots, Relation.ReflTransGen (IsAside passphrase) info.slots slots →
        { info with slots }.unlock passphrase = info.unlock passphrase) ∧
    (∀ slot : KeySlot, slot.salt.length < 16 ∨ slot.wrappedKey.length ≠ 60 →
      slot.IsShut passphrase) ∧
    (info.version ≠ 1 → ∀ slots, { info with slots }.unlock passphrase =
      .error (.corrupted (.repositoryVersion info.version))) := by
  refine ⟨fun supported => ⟨?_, ?_, ?_⟩, ?_, ?_⟩
  · exact fun unlocked => unlock_eq_ok_iff supported
  · exact unlock_eq_invalid_iff supported
  · exact fun slots asides => unlock_of_asides supported asides
  · exact fun slot wrong => KeySlot.isShut_of_length wrong
  · intro other slots
    exact if_pos other

/-- Slots for one passphrase, of which only the last has nothing wrong with it: the others have a
short salt, a box that is cut off, and a box that holds five bytes. -/
def slotsSample : List KeySlot :=
  [.made "salt" "one" (List.replicate 15 7) (List.replicate 12 1) (List.replicate 32 5),
    ⟨"cut", List.replicate 16 7, List.replicate 20 3⟩,
    .made "short" "one" (List.replicate 16 7) (List.replicate 12 1) (List.replicate 5 5),
    .made "whole" "one" (List.replicate 16 7) (List.replicate 12 2) (List.replicate 32 6)]

theorem unlock_takes_first_opening_of_sample :
    (Repository.mk 1 slotsSample).unlock "one" = .ok ⟨⟨List.replicate 32 6⟩, "whole"⟩ := by
  obtain ⟨known, shut, -⟩ := unlock_takes_first_opening ⟨1, slotsSample⟩ "one"
  refine ((known rfl).1 _).2 ⟨slotsSample.take 3, _, [], rfl, ?_, ?_, rfl⟩
  · intro slot mem
    refine shut slot ?_
    rcases List.mem_cons.1 mem with rfl | mem
    · exact .inl (by decide)
    rcases List.mem_cons.1 mem with rfl | mem
    · exact .inr (by decide)
    rw [List.mem_singleton.1 mem, KeySlot.length_made]
    exact .inr (by decide)
  · exact KeySlot.opens_made _ _ (by decide) (by decide) (by decide)

end Repository

end SealGate.Vault
