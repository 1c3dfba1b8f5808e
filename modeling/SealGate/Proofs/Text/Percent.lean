import SealGate.Proofs.Bytes.Text
import SealGate.Text.Percent

/-! Spellings of a text in a path. A byte stands for itself, unless it is a percent sign, or is
written as an escape, with digits of either case; which bytes are escaped is left to the writer.
Every spelling of a text is decoded to it. The encoding of a name is one of its spellings, and a
text of ASCII characters without a percent sign is a spelling of itself. -/

namespace SealGate.Text.Percent

/-- Bytes with escapes among them, and the bytes that they stand for. -/
inductive Spells : Bytes → Bytes → Prop
  | nil : Spells [] []
  | plain {b : UInt8} {spelling bytes : Bytes} : b ≠ 37 → Spells spelling bytes →
      Spells (b :: spelling) (b :: bytes)
  | escaped {high low : UInt8} {h l : Nat} {spelling bytes : Bytes} :
      digitValue? high = some h → digitValue? low = some l → Spells spelling bytes →
      Spells (37 :: high :: low :: spelling) (UInt8.ofNat (16 * h + l) :: bytes)

/-- A way to write a text with escapes. -/
def IsSpelling (spelling text : String) : Prop :=
  Spells (Bytes.ofText spelling) (Bytes.ofText text)

theorem decodeBytes_plain {b : UInt8} (plain : b ≠ 37) (rest : Bytes) :
    decodeBytes (b :: rest) = b :: decodeBytes rest := by
  match rest with
  | [] => rfl
  | [_] => rfl
  | _ :: _ :: _ => simp [decodeBytes, plain]

theorem decodeBytes_escaped {high low : UInt8} {h l : Nat} (first : digitValue? high = some h)
    (second : digitValue? low = some l) (rest : Bytes) :
    decodeBytes (37 :: high :: low :: rest) = UInt8.ofNat (16 * h + l) :: decodeBytes rest := by
  simp [decodeBytes, first, second]

theorem Spells.decodeBytes_eq {spelling bytes : Bytes} (spells : Spells spelling bytes) :
    decodeBytes spelling = bytes := by
  induction spells with
  | nil => rfl
  | plain apart _ ih => rw [decodeBytes_plain apart, ih]
  | escaped first second _ ih => rw [decodeBytes_escaped first second, ih]

theorem Spells.append {spelling bytes others behind : Bytes} (front : Spells spelling bytes)
    (back : Spells others behind) : Spells (spelling ++ others) (bytes ++ behind) := by
  induction front with
  | nil => exact back
  | plain apart _ ih => exact .plain apart ih
  | escaped first second _ ih => exact .escaped first second ih

/-- However a text is spelled, it is decoded. -/
theorem IsSpelling.decode?_eq {spelling text : String} (spells : IsSpelling spelling text) :
    decode? spelling = some text := by
  rw [decode?, spells.decodeBytes_eq, Bytes.text?_ofText]

/-! ### Written by its encoding -/

theorem isUnreserved_bounds {b : UInt8} (kept : isUnreserved b = true) :
    b.toNat ≤ 127 ∧ b.toNat ≠ 37 := by
  simp only [isUnreserved, Bool.or_eq_true, Bool.and_eq_true, decide_eq_true_eq] at kept
  omega

theorem upperDigit_spec : ∀ n < 16, (upperDigit n).toNat ≤ 127 ∧
    digitValue? (UInt8.ofNat (upperDigit n).toNat) = some n := by decide

/-- What is written for one byte. -/
theorem spells_escapeByte (b : UInt8) :
    Spells ((escapeByte isUnreserved b).flatMap String.utf8EncodeChar) [b] := by
  rw [escapeByte]
  split
  · rename_i kept
    obtain ⟨ascii, apart⟩ := isUnreserved_bounds kept
    have same : (Char.ofNat b.toNat).toNat = b.toNat := Bytes.toNat_ofNat_byte b
    have encoded : [Char.ofNat b.toNat].flatMap String.utf8EncodeChar = [b] := by
      rw [List.flatMap_singleton, Bytes.utf8EncodeChar_ascii (by omega), same, UInt8.ofNat_toNat]
    rw [encoded]
    refine .plain ?_ .nil
    rintro rfl
    exact apart rfl
  · have small := b.toNat_lt
    obtain ⟨highAscii, high⟩ := upperDigit_spec (b.toNat / 16) (by omega)
    obtain ⟨lowAscii, low⟩ := upperDigit_spec (b.toNat % 16) (by omega)
    have whole : UInt8.ofNat (16 * (b.toNat / 16) + b.toNat % 16) = b := by
      rw [Nat.div_add_mod, UInt8.ofNat_toNat]
    have spelled := Spells.escaped high low .nil
    rw [whole] at spelled
    simp only [List.flatMap_cons, List.flatMap_nil, Bytes.utf8EncodeChar_ascii highAscii,
      Bytes.utf8EncodeChar_ascii lowAscii]
    exact spelled

theorem spells_flatMap (bytes : Bytes) :
    Spells ((bytes.flatMap (escapeByte isUnreserved)).flatMap String.utf8EncodeChar) bytes := by
  induction bytes with
  | nil => exact .nil
  | cons b bytes ih =>
    rw [List.flatMap_cons, List.flatMap_append]
    exact (spells_escapeByte b).append ih

theorem isSpelling_encode (text : String) : IsSpelling (encode text) text := by
  rw [IsSpelling, encode, escape, Bytes.ofText_ofList]
  exact spells_flatMap (Bytes.ofText text)

/-! ### Written as it is -/

theorem spells_ascii {chars : List Char} (plain : ∀ c ∈ chars, c.toNat ≤ 127 ∧ c ≠ '%') :
    Spells (chars.flatMap String.utf8EncodeChar) (chars.flatMap String.utf8EncodeChar) := by
  induction chars with
  | nil => exact .nil
  | cons c chars ih =>
    obtain ⟨ascii, apart⟩ := plain c List.mem_cons_self
    rw [List.flatMap_cons, Bytes.utf8EncodeChar_ascii ascii]
    refine .plain ?_ (ih fun other mem => plain other (List.mem_cons_of_mem c mem))
    intro same
    have number := congrArg UInt8.toNat same
    rw [UInt8.toNat_ofNat', Nat.mod_eq_of_lt (by omega)] at number
    exact apart (Char.toNat_inj.1 number)

theorem isSpelling_self {text : String} (plain : ∀ c ∈ text.toList, c.toNat ≤ 127 ∧ c ≠ '%') :
    IsSpelling text text := by
  have spelled := spells_ascii plain
  rwa [← Bytes.ofText_ofList, String.ofList_toList] at spelled

end SealGate.Text.Percent
