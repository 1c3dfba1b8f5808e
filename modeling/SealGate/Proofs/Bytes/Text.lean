import Mathlib.Data.String.Basic
import Mathlib.Tactic.SplitIfs
import SealGate.Bytes

/-! The bytes of a text. They are those of its characters one after the other, and an ASCII
character takes one byte. Texts compare as their bytes do, so an order of names by characters is
one by bytes. -/

namespace SealGate.Bytes

theorem ofText_ofList (chars : List Char) :
    ofText (String.ofList chars) = chars.flatMap String.utf8EncodeChar := by
  rw [ofText, String.toUTF8_eq_toByteArray, String.toByteArray_ofList, List.utf8Encode,
    List.toList_data_toByteArray]

theorem utf8EncodeChar_ascii {c : Char} (ascii : c.toNat ≤ 127) :
    String.utf8EncodeChar c = [UInt8.ofNat c.toNat] := if_pos ascii

theorem length_ofText_ascii {chars : List Char} (ascii : ∀ c ∈ chars, c.val ≤ 127) :
    (ofText (String.ofList chars)).length = chars.length := by
  rw [ofText_ofList]
  induction chars with
  | nil => rfl
  | cons c chars ih =>
    have one : c.utf8Size = 1 := Char.utf8Size_eq_one_iff.2 (ascii c (by simp))
    rw [List.flatMap_cons, List.length_append, String.length_utf8EncodeChar, one,
      ih fun other mem => ascii other (by simp [mem]), List.length_cons, Nat.add_comm]

theorem toNat_ofNat_byte (b : UInt8) : (Char.ofNat b.toNat).toNat = b.toNat := by
  have small := b.toNat_lt
  have valid : b.toNat.isValidChar := .inl (by omega)
  rw [Char.ofNat, dif_pos valid]
  rfl

/-- Read byte by byte, a text of ASCII characters shows these characters. -/
theorem map_ofNat_ofText_ascii {chars : List Char} (ascii : ∀ c ∈ chars, c.val ≤ 127) :
    (ofText (String.ofList chars)).map (fun b => Char.ofNat b.toNat) = chars := by
  rw [ofText_ofList]
  induction chars with
  | nil => rfl
  | cons c chars ih =>
    have small : c.toNat ≤ 127 := ascii c List.mem_cons_self
    have same : Char.ofNat (UInt8.ofNat c.toNat).toNat = c := by
      rw [UInt8.toNat_ofNat', Nat.mod_eq_of_lt (by omega), Char.ofNat_toNat]
    rw [List.flatMap_cons, List.map_append, ih fun other mem => ascii other (by simp [mem]),
      utf8EncodeChar_ascii small, List.map_cons, same]
    rfl

theorem ofText_append (one other : String) :
    ofText (one ++ other) = ofText one ++ ofText other := by
  rw [← String.ofList_toList (s := one), ← String.ofList_toList (s := other),
    ← String.ofList_append, ofText_ofList, ofText_ofList, ofText_ofList, List.flatMap_append]

theorem utf8EncodeChar_wide {c : Char} (wide : 127 < c.toNat) :
    ∀ b ∈ String.utf8EncodeChar c, 128 ≤ b.toNat := by
  have inside : c.val.toNat < 0x110000 := by
    have valid := c.valid
    simp only [UInt32.isValidChar, Nat.isValidChar] at valid
    omega
  have value : 127 < c.val.toNat := wide
  unfold String.utf8EncodeChar
  generalize c.val.toNat = n at value inside
  dsimp only
  -- two to four bytes, in each of which the sum does not carry
  split_ifs
  · omega
  all_goals simp (disch := omega) [UInt8.toNat_ofNat', Nat.mod_eq_of_lt]

/-- An ASCII byte stands in the bytes of a text if and only if its character stands in the text. -/
theorem mem_ofText_iff {chars : List Char} {b : UInt8} (ascii : b.toNat ≤ 127) :
    b ∈ ofText (String.ofList chars) ↔ Char.ofNat b.toNat ∈ chars := by
  have own : (Char.ofNat b.toNat).toNat = b.toNat := toNat_ofNat_byte b
  rw [ofText_ofList, List.mem_flatMap]
  constructor
  · rintro ⟨c, mem, among⟩
    by_cases small : c.toNat ≤ 127
    · rw [utf8EncodeChar_ascii small, List.mem_singleton] at among
      rw [among, UInt8.toNat_ofNat', Nat.mod_eq_of_lt (by omega), Char.ofNat_toNat]
      exact mem
    · have wide := utf8EncodeChar_wide (by omega) b among
      omega
  · intro mem
    refine ⟨_, mem, ?_⟩
    rw [utf8EncodeChar_ascii (by omega), own, UInt8.ofNat_toNat]
    exact List.mem_singleton_self b

/-! ### Order -/

/-- The bytes of a character come before those of a later one, whatever stands behind them. -/
theorem encode_lt_encode {c d : Char} (below : c < d) (behind others : Bytes) :
    String.utf8EncodeChar c ++ behind < String.utf8EncodeChar d ++ others := by
  have inside : d.val.toNat < 0x110000 := by
    have valid := d.valid
    simp only [UInt32.isValidChar, Nat.isValidChar] at valid
    omega
  have lower : c.val.toNat < d.val.toNat := below
  unfold String.utf8EncodeChar
  generalize c.val.toNat = m at lower ⊢
  generalize d.val.toNat = n at lower inside ⊢
  dsimp only
  -- one to four bytes on either side, in each of which no sum carries
  split_ifs <;> simp (disch := omega) only [List.cons_append, List.nil_append,
    List.cons_lt_cons_iff, UInt8.lt_iff_toNat_lt, ← UInt8.toNat_inj, UInt8.toNat_ofNat',
    Nat.mod_eq_of_lt]
  all_goals omega

theorem flatMap_encode_lt {before after : List Char} (below : before < after) :
    before.flatMap String.utf8EncodeChar < after.flatMap String.utf8EncodeChar := by
  induction before generalizing after with
  | nil =>
    cases after with
    | nil => exact absurd below (List.lt_irrefl _)
    | cons d after =>
      obtain ⟨first, rest, encoded⟩ :=
        List.exists_cons_of_ne_nil (String.utf8EncodeChar_ne_nil (c := d))
      rw [List.flatMap_nil, List.flatMap_cons, encoded]
      exact List.nil_lt_cons _ _
  | cons c before ih =>
    cases after with
    | nil => exact absurd below (List.not_lt_nil _)
    | cons d after =>
      rcases List.cons_lt_cons_iff.1 below with first | ⟨rfl, rest⟩
      · exact encode_lt_encode first _ _
      · exact List.append_left_lt (ih rest)

theorem ofText_lt_of_lt {one other : String} (below : one < other) :
    ofText one < ofText other := by
  rw [← String.ofList_toList (s := one), ← String.ofList_toList (s := other), ofText_ofList,
    ofText_ofList]
  exact flatMap_encode_lt (String.lt_iff_toList_lt.1 below)

/-- Texts are ordered as their bytes are. -/
theorem ofText_lt_ofText_iff {one other : String} : ofText one < ofText other ↔ one < other := by
  refine ⟨fun below => ?_, ofText_lt_of_lt⟩
  rcases lt_trichotomy one other with before | rfl | behind
  · exact before
  · exact absurd below (List.lt_irrefl _)
  · exact absurd below (List.lt_asymm (ofText_lt_of_lt behind))

end SealGate.Bytes
