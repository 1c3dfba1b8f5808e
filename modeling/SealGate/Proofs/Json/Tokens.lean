import SealGate.Json.Parser
import SealGate.Json.Printer

/-! Strings and numbers are read back as they are written. A string may have any characters, and of
surrogate halves those that an escape can name; a number may be any that the grammar has. What
stands behind a string does not matter, and what stands behind a number must not continue it. -/

namespace SealGate.Json

open Text

namespace Piece

/-- A piece that some text spells. -/
def IsProper : Piece → Prop
  | .char _ => True
  | .surrogate unit => (isHigh unit || isLow unit) = true

end Piece

namespace Parser

/-! ### Strings -/

theorem codeUnit?_digits {unit : Nat} (small : unit < 0x10000) :
    codeUnit? (Hex.digit (unit / 4096 % 16)) (Hex.digit (unit / 256 % 16))
      (Hex.digit (unit / 16 % 16)) (Hex.digit (unit % 16)) = some unit := by
  have digit (n : Nat) : Hex.digitValue? (Hex.digit (n % 16)) = some (n % 16) :=
    Hex.digitValue?_digit _ (Nat.mod_lt _ (by decide))
  simp only [codeUnit?, digit, Option.bind_eq_bind, Option.bind_some, Option.pure_def,
    Option.some.injEq]
  omega

theorem stringBody_unitEscape {unit : Nat} (small : unit < 0x10000) (rest : List Char) :
    stringBody (unitEscape unit ++ rest) =
      (stringBody rest).map fun found => (Piece.ofUnit unit :: found.1, found.2) := by
  simp only [unitEscape, List.cons_append, List.nil_append, stringBody, codeUnit?_digits small,
    Option.bind_eq_bind, Option.bind_some, Option.pure_def]
  cases stringBody rest <;> rfl

/-- An escape of one letter. -/
theorem stringBody_escape {letter c : Char} (known : escaped? letter = some c) (rest : List Char) :
    stringBody ('\\' :: letter :: rest) =
      (stringBody rest).map fun found => (.char c :: found.1, found.2) := by
  have other : letter ≠ 'u' := by
    rintro rfl
    cases known
  rw [stringBody]
  · rw [known]
    cases stringBody rest <;> rfl
  · intro a b c d rest same
    simp [other] at same

/-- A character that stands for itself. -/
theorem stringBody_plain {c : Char} (quote : c ≠ '"') (escape : c ≠ '\\') (shown : 32 ≤ c.toNat)
    (rest : List Char) :
    stringBody (c :: rest) =
      (stringBody rest).map fun found => (.char c :: found.1, found.2) := by
  rw [stringBody]
  · rw [if_neg (by simp only [escape, or_false]; omega)]
    cases stringBody rest <;> rfl
  · exact quote
  · exact fun _ _ _ _ _ same _ => escape same
  · exact fun _ _ same _ => escape same

theorem stringBody_renderChar (c : Char) (rest : List Char) :
    stringBody (Piece.renderChar c ++ rest) =
      (stringBody rest).map fun found => (.char c :: found.1, found.2) := by
  unfold Piece.renderChar
  split
  · exact stringBody_escape rfl rest
  · exact stringBody_escape rfl rest
  · exact stringBody_escape rfl rest
  · exact stringBody_escape rfl rest
  · exact stringBody_escape rfl rest
  · exact stringBody_escape rfl rest
  · exact stringBody_escape rfl rest
  · rename_i quote escape _ _ _ _ _
    split
    · rename_i control
      have unit : Piece.ofUnit c.toNat = .char c := by
        have plain : (Piece.isHigh c.toNat || Piece.isLow c.toNat) = false := by
          simp only [Piece.isHigh, Piece.isLow, Bool.or_eq_false_iff, Bool.and_eq_false_iff,
            decide_eq_false_iff_not]
          omega
        rw [Piece.ofUnit, if_neg (by simp [plain]), Char.ofNat_toNat]
      rw [stringBody_unitEscape (by omega), unit]
    · rename_i shown
      exact stringBody_plain (fun same => quote same) (fun same => escape same) (by omega) rest

theorem stringBody_render {piece : Piece} (proper : piece.IsProper) (rest : List Char) :
    stringBody (piece.render ++ rest) =
      (stringBody rest).map fun found => (piece :: found.1, found.2) := by
  cases piece with
  | char c => exact stringBody_renderChar c rest
  | surrogate unit =>
    have small : unit < 0x10000 := by
      simp only [Piece.IsProper, Piece.isHigh, Piece.isLow, Bool.or_eq_true, Bool.and_eq_true,
        decide_eq_true_eq] at proper
      omega
    have same : Piece.ofUnit unit = .surrogate unit := if_pos proper
    rw [Piece.render, stringBody_unitEscape small, same]

/-- The pieces of a string are read back up to its closing quote. -/
theorem stringBody_flatMap {pieces : List Piece} (proper : ∀ piece ∈ pieces, piece.IsProper)
    (rest : List Char) :
    stringBody (pieces.flatMap Piece.render ++ '"' :: rest) = some (pieces, rest) := by
  induction pieces with
  | nil => rfl
  | cons piece pieces ih =>
    rw [List.flatMap_cons, List.append_assoc, stringBody_render (proper piece (by simp)),
      ih fun other mem => proper other (by simp [mem])]
    rfl

end Parser

/-! ### Numbers -/

/-- A number that some text spells: digits before the point with no zero in front of others, digits
behind the point, and digits in the exponent if there is one. -/
structure Numeral.IsProper (n : Numeral) : Prop where
  some_whole : n.whole ≠ []
  whole : ∀ c ∈ n.whole, Decimal.isDigit c = true
  no_zero : n.whole.head? = some '0' → n.whole = ['0']
  fraction : ∀ c ∈ n.fraction, Decimal.isDigit c = true
  exponent : ∀ sign digits, n.exponent = some (sign, digits) →
    digits ≠ [] ∧ ∀ c ∈ digits, Decimal.isDigit c = true

/-- A character that may stand behind a digit in a number. -/
def continues (c : Char) : Bool := Decimal.isDigit c || c = '.' || c = 'e' || c = 'E'

/-- A text that does not continue a number. -/
def EndsNumber (text : List Char) : Prop := ∀ c, text.head? = some c → continues c = false

theorem EndsNumber.nil : EndsNumber [] := by
  intro c h
  cases h

theorem EndsNumber.cons {c : Char} (ends : continues c = false) (text : List Char) :
    EndsNumber (c :: text) := by
  intro d h
  obtain rfl := Option.some.inj h
  exact ends

theorem EndsNumber.digit {text : List Char} (ends : EndsNumber text) (c : Char)
    (h : text.head? = some c) : Decimal.isDigit c = false := by
  have other := ends c h
  simp only [continues, Bool.or_eq_false_iff] at other
  exact other.1.1.1

namespace Parser

theorem takeDigits_append {digits rest : List Char}
    (all : ∀ c ∈ digits, Decimal.isDigit c = true)
    (ends : ∀ c, rest.head? = some c → Decimal.isDigit c = false) :
    takeDigits (digits ++ rest) = (digits, rest) := by
  rw [takeDigits, List.takeWhile_append_of_pos all, List.dropWhile_append_of_pos all]
  cases rest with
  | nil => simp
  | cons c rest =>
    have other := ends c rfl
    simp [other]

theorem whole?_append {digits rest : List Char} (held : digits ≠ [])
    (all : ∀ c ∈ digits, Decimal.isDigit c = true)
    (no_zero : digits.head? = some '0' → digits = ['0'])
    (ends : ∀ c, rest.head? = some c → Decimal.isDigit c = false) :
    whole? (digits ++ rest) = some (digits, rest) := by
  obtain ⟨first, behind, rfl⟩ := List.exists_cons_of_ne_nil held
  by_cases zero : first = '0'
  · subst zero
    rw [no_zero rfl]
    rfl
  · rw [whole?]
    · rw [takeDigits_append all ends]
    · intro others same
      exact zero (List.cons.inj same).1

theorem fraction?_append {digits rest : List Char}
    (all : ∀ c ∈ digits, Decimal.isDigit c = true)
    (ends : ∀ c, rest.head? = some c → Decimal.isDigit c = false ∧ c ≠ '.') :
    fraction? ((if digits = [] then [] else '.' :: digits) ++ rest) = some (digits, rest) := by
  by_cases none : digits = []
  · rw [if_pos none, List.nil_append, none, fraction?]
    intro behind same
    subst same
    exact (ends '.' rfl).2 rfl
  · rw [if_neg none, List.cons_append, fraction?, takeDigits_append all fun c h => (ends c h).1]
    obtain ⟨first, behind, rfl⟩ := List.exists_cons_of_ne_nil none
    rfl

theorem sign_append (mark : Sign) {digits : List Char} (held : digits ≠ [])
    (all : ∀ c ∈ digits, Decimal.isDigit c = true) (rest : List Char) :
    sign (Numeral.renderSign mark ++ (digits ++ rest)) = (mark, digits ++ rest) := by
  obtain ⟨first, behind, rfl⟩ := List.exists_cons_of_ne_nil held
  have digit := all first (by simp)
  cases mark with
  | unsigned =>
    rw [Numeral.renderSign, List.nil_append, sign]
    · rintro others same
      rw [(List.cons.inj same).1] at digit
      exact absurd digit (by decide)
    · rintro others same
      rw [(List.cons.inj same).1] at digit
      exact absurd digit (by decide)
  | plus => rfl
  | minus => rfl

theorem exponent?_append {exponent : Option (Sign × List Char)}
    (proper : ∀ sign digits, exponent = some (sign, digits) →
      digits ≠ [] ∧ ∀ c ∈ digits, Decimal.isDigit c = true)
    {rest : List Char} (ends : EndsNumber rest) :
    exponent? (Numeral.renderExponent exponent ++ rest) = some (exponent, rest) := by
  rcases exponent with _ | ⟨mark, digits⟩
  · rw [Numeral.renderExponent, List.nil_append, exponent?]
    · rintro others rfl
      exact absurd (ends 'e' rfl) (by decide)
    · rintro others rfl
      exact absurd (ends 'E' rfl) (by decide)
  · obtain ⟨held, all⟩ := proper mark digits rfl
    have signed := sign_append mark held all rest
    have taken := takeDigits_append all ends.digit
    rw [Numeral.renderExponent, List.cons_append, List.append_assoc]
    simp only [exponent?, exponentDigits?]
    rw [signed]
    simp only [taken]

theorem head?_exponent {exponent : Option (Sign × List Char)} {rest : List Char}
    (ends : EndsNumber rest) (c : Char)
    (h : (Numeral.renderExponent exponent ++ rest).head? = some c) :
    Decimal.isDigit c = false ∧ c ≠ '.' := by
  rcases exponent with _ | ⟨mark, digits⟩
  · have other := ends c h
    simp only [continues, Bool.or_eq_false_iff, decide_eq_false_iff_not] at other
    exact ⟨other.1.1.1, other.1.1.2⟩
  · obtain rfl := Option.some.inj h
    decide

theorem unsignedNumeral?_render {n : Numeral} (proper : n.IsProper) {rest : List Char}
    (ends : EndsNumber rest) :
    unsignedNumeral? n.negative (n.whole ++ ((if n.fraction = [] then [] else '.' :: n.fraction) ++
      (Numeral.renderExponent n.exponent ++ rest))) = some (n, rest) := by
  have stop : ∀ c, ((if n.fraction = [] then [] else '.' :: n.fraction) ++
      (Numeral.renderExponent n.exponent ++ rest)).head? = some c →
      Decimal.isDigit c = false := by
    intro c h
    split at h
    · exact (head?_exponent ends c h).1
    · obtain rfl := Option.some.inj h
      decide
  rw [unsignedNumeral?, whole?_append proper.some_whole proper.whole proper.no_zero stop]
  simp only [Option.bind_eq_bind, Option.bind_some,
    fraction?_append proper.fraction (head?_exponent ends),
    exponent?_append proper.exponent ends, Option.pure_def]

/-- A written number starts with its sign or with a digit. -/
theorem head_renderNumeral {n : Numeral} (proper : n.IsProper) :
    ∃ c behind, n.render = c :: behind ∧ (c = '-' ∨ Decimal.isDigit c = true) := by
  cases sign : n.negative with
  | true =>
    refine ⟨'-', (n.whole ++ if n.fraction = [] then [] else '.' :: n.fraction) ++
      Numeral.renderExponent n.exponent, ?_, .inl rfl⟩
    simp [Numeral.render, sign]
  | false =>
    obtain ⟨first, behind, whole⟩ := List.exists_cons_of_ne_nil proper.some_whole
    refine ⟨first, (behind ++ if n.fraction = [] then [] else '.' :: n.fraction) ++
      Numeral.renderExponent n.exponent, ?_, .inr (proper.whole first (by rw [whole]; simp))⟩
    simp [Numeral.render, sign, whole]

/-- A number is read back up to where it ends. -/
theorem numeral?_render {n : Numeral} (proper : n.IsProper) {rest : List Char}
    (ends : EndsNumber rest) : numeral? (n.render ++ rest) = some (n, rest) := by
  have unsigned := unsignedNumeral?_render proper ends
  simp only [Numeral.render, List.append_assoc]
  cases sign : n.negative with
  | true =>
    rw [sign] at unsigned
    exact unsigned
  | false =>
    rw [sign] at unsigned
    obtain ⟨first, behind, whole⟩ := List.exists_cons_of_ne_nil proper.some_whole
    have digit := proper.whole first (by rw [whole]; simp)
    rw [if_neg Bool.false_ne_true, List.nil_append, whole, List.cons_append, numeral?]
    · rw [whole, List.cons_append] at unsigned
      exact unsigned
    · intro others same
      rw [(List.cons.inj same).1] at digit
      exact absurd digit (by decide)

end Parser

/-! ### Natural numbers -/

theorem head?_digits {n : Nat} (zero : (Decimal.digits n).head? = some '0') : n = 0 := by
  rw [Decimal.digits] at zero
  split at zero
  · rename_i small
    have value := congrArg (Option.map Decimal.digitValue) zero
    simp only [List.head?_cons, Option.map_some, Decimal.digitValue_digit,
      Option.some.injEq] at value
    have none : Decimal.digitValue '0' = 0 := rfl
    omega
  · rename_i large
    obtain ⟨first, behind, front⟩ := List.exists_cons_of_ne_nil (Decimal.digits_ne_nil (n / 10))
    have none := head?_digits (n := n / 10) (by
      rw [front] at zero ⊢
      exact zero)
    omega
termination_by n

theorem Numeral.isProper_ofNat (n : Nat) : (ofNat n).IsProper where
  some_whole := Decimal.digits_ne_nil n
  whole := Decimal.isDigit_of_mem_digits n
  no_zero zero := by
    have none : n = 0 := head?_digits zero
    subst none
    show Decimal.digits 0 = ['0']
    rw [Decimal.digits, if_pos (by decide)]
    rfl
  fraction _ mem := by cases mem
  exponent _ _ h := by cases h

end SealGate.Json
