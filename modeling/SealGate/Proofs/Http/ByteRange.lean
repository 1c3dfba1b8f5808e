import SealGate.Http.ByteRange
import SealGate.Proofs.Text.Numeral

/-! Ranges as texts. The text of a range that goes on to the end is read as that range: it has no
blanks to trim, one unit, one hyphen and the digits of one number. -/

namespace SealGate

open Text Http

namespace Http.ByteRange

/-- The bounds of a range from a place on to the end. -/
def openBounds (start : Nat) : List Char := Decimal.digits start ++ ['-']

theorem parseBounds_openBounds (start : UInt64) :
    parseBounds (openBounds start.toNat) = .ok ⟨start, 0⟩ := by
  have digits := Decimal.isDigit_of_mem_digits start.toNat
  have split : splitFirst '-' (openBounds start.toNat) =
      some (Decimal.digits start.toNat, []) := by
    refine splitFirst_eq_some_iff.2 ⟨rfl, fun mem => ?_⟩
    exact absurd (digits '-' mem) (by decide)
  have number : trim (Decimal.digits start.toNat) = Decimal.digits start.toNat :=
    trim_eq_self fun c mem => Decimal.isBlank_eq_false_of_isDigit (digits c mem)
  simp only [parseBounds, split, number, Decimal.numeral?_digits]
  rfl

/-- The text of a range from a place on to the end. -/
def openChars (start : Nat) : List Char := unit ++ openBounds start

/-- What holds of the unit, of digits and of a hyphen holds of the whole text. -/
theorem forall_openChars (holds : Char → Bool) (start : Nat) (unit : unit.all holds = true)
    (digit : ∀ c, Decimal.isDigit c = true → holds c = true) (hyphen : holds '-' = true) :
    ∀ c ∈ openChars start, holds c = true := by
  intro c mem
  rcases List.mem_append.1 mem with mem | mem
  · exact List.all_eq_true.1 unit c mem
  · rcases List.mem_append.1 mem with mem | mem
    · exact digit c (Decimal.isDigit_of_mem_digits start c mem)
    · rwa [List.mem_singleton.1 mem]

/-- The text is read as the range from that place on, of no given length. -/
theorem parseChars_openChars (start : UInt64) :
    parseChars (openChars start.toNat) = .ok (some ⟨start, 0⟩) := by
  have shown : ∀ c ∈ openChars start.toNat, isBlank c = false := by
    have all := forall_openChars (fun c => !isBlank c) start.toNat (by decide)
      (fun c digit => by simp [Decimal.isBlank_eq_false_of_isDigit digit]) (by decide)
    simpa using all
  have single : ∀ c ∈ openChars start.toNat, c ≠ ',' := by
    have all := forall_openChars (fun c => c != ',') start.toNat (by decide) ?_ (by decide)
    · simpa using all
    intro c digit
    rw [bne_iff_ne]
    rintro rfl
    exact absurd digit (by decide)
  have inner : ∀ c ∈ openBounds start.toNat, c ∈ openChars start.toNat :=
    fun c mem => List.mem_append_right _ mem
  have whole := trim_eq_self shown
  have bounds : trim (openBounds start.toNat) = openBounds start.toNat :=
    trim_eq_self fun c mem => shown c (inner c mem)
  have one : ',' ∉ openBounds start.toNat := fun mem => single ',' (inner ',' mem) rfl
  have spec : after? unit (openChars start.toNat) = some (openBounds start.toNat) :=
    after?_append _ _
  have filled : openChars start.toNat ≠ [] ∧ openBounds start.toNat ≠ [] := by
    simp [openChars, openBounds]
  simp only [parseChars, whole, spec, one, bounds, filled, parseBounds_openBounds, if_false]
  rfl

end Http.ByteRange

end SealGate
