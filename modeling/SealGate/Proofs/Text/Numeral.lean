import Mathlib.Data.List.Induction
import Mathlib.Data.List.TakeWhile
import SealGate.Text.Blank
import SealGate.Text.Decimal

/-! White space and numerals. Trimming takes away the white space around a text and nothing else, so
it finds a text without white space in it exactly where that text stands alone. A number is read from
its digits, with any leading zeros and perhaps a plus sign before them, and from nothing else. -/

namespace SealGate.Text

/-! ### White space around a text -/

/-- A text of white space alone, or of nothing. -/
def IsBlankText (text : List Char) : Prop := ∀ c ∈ text, isBlank c = true

/-- A text that stands alone: there is nothing around it but white space. -/
def IsPadded (core text : List Char) : Prop :=
  ∃ before behind, IsBlankText before ∧ IsBlankText behind ∧ text = before ++ core ++ behind

theorem IsBlankText.not_mem {text : List Char} (blank : IsBlankText text) {c : Char}
    (shown : isBlank c = false) : c ∉ text :=
  fun mem => absurd (blank c mem) (by simp [shown])

theorem trimEnd_append {blanks : List Char} (blank : IsBlankText blanks) (text : List Char) :
    trimEnd (text ++ blanks) = trimEnd text := by
  have backwards : ∀ c ∈ blanks.reverse, isBlank c = true :=
    fun c mem => blank c (List.mem_reverse.1 mem)
  rw [trimEnd, trimEnd, List.reverse_append, List.dropWhile_append_of_pos backwards]

theorem trim_blank_append {blanks : List Char} (blank : IsBlankText blanks) (text : List Char) :
    trim (blanks ++ text) = trim text := by
  rw [trim, trim, trimStart, trimStart, List.dropWhile_append_of_pos blank]

theorem trim_append_blank {blanks : List Char} (blank : IsBlankText blanks) (text : List Char) :
    trim (text ++ blanks) = trim text := by
  have gone : blanks.dropWhile isBlank = [] := List.dropWhile_eq_nil_iff.2 blank
  rw [trim, trim, trimStart, trimStart, List.dropWhile_append]
  split
  · rename_i all
    rw [gone, List.isEmpty_iff.1 all]
  · exact trimEnd_append blank _

theorem IsPadded.trim_eq {core text : List Char} (padded : IsPadded core text) :
    trim text = trim core := by
  obtain ⟨before, behind, first, last, rfl⟩ := padded
  rw [trim_append_blank last, trim_blank_append first]

/-- What trimming leaves stood alone. -/
theorem isPadded_trim (text : List Char) : IsPadded (trim text) text := by
  have start : text.takeWhile isBlank ++ trimStart text = text := List.takeWhile_append_dropWhile
  have stop : trim text ++ ((trimStart text).reverse.takeWhile isBlank).reverse =
      trimStart text := by
    rw [trim, trimEnd, ← List.reverse_append, List.takeWhile_append_dropWhile, List.reverse_reverse]
  refine ⟨text.takeWhile isBlank, ((trimStart text).reverse.takeWhile isBlank).reverse, ?_, ?_, ?_⟩
  · exact fun c mem => List.mem_takeWhile_imp mem
  · exact fun c mem => List.mem_takeWhile_imp (List.mem_reverse.1 mem)
  · rw [List.append_assoc, stop, start]

theorem trim_eq_self {text : List Char} (shown : ∀ c ∈ text, isBlank c = false) :
    trim text = text := by
  have head : trimStart text = text := by
    cases text with
    | nil => rfl
    | cons c text => simp [trimStart, shown c]
  have last : text.reverse.dropWhile isBlank = text.reverse := by
    cases backwards : text.reverse with
    | nil => rfl
    | cons c rest =>
      have mem : c ∈ text := List.mem_reverse.1 (backwards ▸ List.mem_cons_self)
      simp [shown c mem]
  rw [trim, head, trimEnd, last, List.reverse_reverse]

theorem trim_eq_iff {core text : List Char} (shown : ∀ c ∈ core, isBlank c = false) :
    trim text = core ↔ IsPadded core text :=
  ⟨fun trimmed => trimmed ▸ isPadded_trim text, fun padded => padded.trim_eq.trans (trim_eq_self shown)⟩

theorem trim_eq_nil_iff {text : List Char} : trim text = [] ↔ IsBlankText text := by
  constructor
  · intro none
    obtain ⟨before, behind, first, last, whole⟩ := isPadded_trim text
    rw [none, List.append_nil] at whole
    intro c mem
    rw [whole] at mem
    exact (List.mem_append.1 mem).elim (first c) (last c)
  · intro blank
    exact trim_append_blank blank []

/-! ### Numerals -/

namespace Decimal

/-- The spellings of a number: its digits, with any leading zeros and perhaps a plus sign. -/
def IsNumeral (n : Nat) (text : List Char) : Prop :=
  ∃ sign zeros, (sign = [] ∨ sign = ['+']) ∧ text = sign ++ (List.replicate zeros '0' ++ digits n)

theorem toNat_of_isDigit {c : Char} (digit : isDigit c = true) : 48 ≤ c.toNat ∧ c.toNat ≤ 57 := by
  simp only [isDigit, Bool.and_eq_true, decide_eq_true_eq] at digit
  exact digit

theorem isBlank_eq_false_of_isDigit {c : Char} (digit : isDigit c = true) : isBlank c = false := by
  obtain ⟨low, high⟩ := toNat_of_isDigit digit
  simp [isBlank]
  omega

theorem digit_digitValue {c : Char} (known : isDigit c = true) : digit (digitValue c) = c := by
  obtain ⟨low, high⟩ := toNat_of_isDigit known
  rw [digit, digitValue, Nat.mod_eq_of_lt (by omega), Nat.add_sub_cancel' low, Char.ofNat_toNat]

theorem digitValue_lt {c : Char} (known : isDigit c = true) : digitValue c < 10 := by
  obtain ⟨low, high⟩ := toNat_of_isDigit known
  rw [digitValue]
  omega

theorem value_concat (run : List Char) (c : Char) :
    value (run ++ [c]) = 10 * value run + digitValue c := by
  simp only [value, valueFrom, List.foldl_append, List.foldl_cons, List.foldl_nil]

theorem value_zeros (zeros : Nat) (run : List Char) :
    value (List.replicate zeros '0' ++ run) = value run := by
  induction zeros with
  | zero => rfl
  | succ zeros ih =>
    rw [List.replicate_succ, List.cons_append, ← ih]
    rfl

theorem digits_zero : digits 0 = ['0'] := by
  rw [digits, if_pos (by decide)]
  rfl

theorem digits_concat {m d : Nat} (some : m ≠ 0) (small : d < 10) :
    digits (10 * m + d) = digits m ++ [digit d] := by
  have last : digit (10 * m + d) = digit d := by
    rw [digit, digit, Nat.mul_add_mod_self_left]
  rw [digits, if_neg (by omega), last, show (10 * m + d) / 10 = m by omega]

/-- A run of digits is the digits of its value behind leading zeros. -/
theorem exists_zeros {run : List Char} (some : run ≠ []) (all : ∀ c ∈ run, isDigit c = true) :
    ∃ zeros, run = List.replicate zeros '0' ++ digits (value run) := by
  induction run using List.reverseRecOn with
  | nil => exact absurd rfl some
  | append_singleton run c ih =>
    have known : isDigit c = true := all c (by simp)
    have small := digitValue_lt known
    have single : digits (digitValue c) = [c] := by
      rw [digits, if_pos small, digit_digitValue known]
    by_cases none : run = []
    · refine ⟨0, ?_⟩
      rw [none, value_concat, show value [] = 0 from rfl, Nat.mul_zero, Nat.zero_add, single]
      rfl
    obtain ⟨zeros, spelled⟩ := ih none fun other mem => all other (List.mem_append_left _ mem)
    rw [value_concat]
    by_cases zero : value run = 0
    · -- The number so far is zero, so its digit is one more leading zero.
      refine ⟨zeros + 1, ?_⟩
      rw [zero] at spelled
      rw [zero, Nat.mul_zero, Nat.zero_add, single, spelled, List.replicate_succ', digits_zero]
    · refine ⟨zeros, ?_⟩
      rw [digits_concat zero small, digit_digitValue known, ← List.append_assoc, ← spelled]

/-- A text without the plus sign that it may start with. -/
def unsigned (text : List Char) : List Char :=
  match text with
  | '+' :: rest => rest
  | _ => text

theorem unsigned_of_digits {run : List Char} (all : ∀ c ∈ run, isDigit c = true) :
    unsigned run = run := by
  unfold unsigned
  split
  next => exact absurd (all '+' List.mem_cons_self) (by decide)
  next => rfl

theorem exists_sign (text : List Char) :
    ∃ sign, (sign = [] ∨ sign = ['+']) ∧ text = sign ++ unsigned text := by
  unfold unsigned
  split
  next rest => exact ⟨['+'], .inr rfl, rfl⟩
  next => exact ⟨[], .inl rfl, rfl⟩

/-- What is read is a run of digits, perhaps behind a plus sign, whose value fits in 64 bits. -/
theorem numeral?_eq_some_iff_value {text : List Char} {n : UInt64} :
    numeral? text = some n ↔ unsigned text ≠ [] ∧ (∀ c ∈ unsigned text, isDigit c = true) ∧
      value (unsigned text) = n.toNat := by
  have body : numeral? text =
      if unsigned text = [] ∨ !(unsigned text).all isDigit then none
      else if value (unsigned text) < 2 ^ 64 then some (UInt64.ofNat (value (unsigned text)))
      else none := rfl
  have fits := n.toNat_lt
  by_cases improper : unsigned text = [] ∨ !(unsigned text).all isDigit
  · rw [body, if_pos improper]
    constructor
    · intro none
      cases none
    · rintro ⟨filled, all, -⟩
      simp [filled, List.all_eq_true.2 all] at improper
  · obtain ⟨filled, all⟩ := not_or.1 improper
    rw [Bool.not_eq_true', Bool.not_eq_false, List.all_eq_true] at all
    rw [body, if_neg improper]
    by_cases small : value (unsigned text) < 2 ^ 64
    · rw [if_pos small, Option.some_inj, ← UInt64.toNat_inj, UInt64.toNat_ofNat',
        Nat.mod_eq_of_lt small]
      exact ⟨fun same => ⟨filled, all, same⟩, fun known => known.2.2⟩
    · rw [if_neg small]
      constructor
      · intro none
        cases none
      · rintro ⟨-, -, same⟩
        exact absurd (same ▸ fits) small

theorem isDigit_of_mem_spelling (zeros n : Nat) :
    ∀ c ∈ List.replicate zeros '0' ++ digits n, isDigit c = true := by
  intro c mem
  rcases List.mem_append.1 mem with mem | mem
  · rw [List.eq_of_mem_replicate mem]
    decide
  · exact isDigit_of_mem_digits n c mem

/-- A spelling of a number is read as that number, and nothing else is read. -/
theorem numeral?_eq_some_iff {text : List Char} {n : UInt64} :
    numeral? text = some n ↔ IsNumeral n.toNat text := by
  rw [numeral?_eq_some_iff_value]
  constructor
  · rintro ⟨some, all, same⟩
    obtain ⟨sign, either, whole⟩ := exists_sign text
    obtain ⟨zeros, spelled⟩ := exists_zeros some all
    exact ⟨sign, zeros, either, by rw [← same, ← spelled]; exact whole⟩
  · rintro ⟨sign, zeros, either, rfl⟩
    have all := isDigit_of_mem_spelling zeros n.toNat
    have run : unsigned (sign ++ (List.replicate zeros '0' ++ digits n.toNat)) =
        List.replicate zeros '0' ++ digits n.toNat := by
      rcases either with rfl | rfl
      · exact unsigned_of_digits all
      · rfl
    rw [run]
    exact ⟨List.append_ne_nil_of_right_ne_nil _ (digits_ne_nil _), all,
      (value_zeros _ _).trans (value_digits _)⟩

theorem numeral?_digits (n : UInt64) : numeral? (digits n.toNat) = some n :=
  numeral?_eq_some_iff.2 ⟨[], 0, .inl rfl, rfl⟩

/-- A number that stands alone. -/
def IsNumber (n : Nat) (text : List Char) : Prop :=
  ∃ numeral, IsNumeral n numeral ∧ IsPadded numeral text

theorem IsNumeral.shown {n : Nat} {text : List Char} (spelled : IsNumeral n text) :
    ∀ c ∈ text, c = '+' ∨ isDigit c = true := by
  obtain ⟨sign, zeros, either, rfl⟩ := spelled
  intro c mem
  rcases List.mem_append.1 mem with mem | mem
  · rcases either with rfl | rfl
    · cases mem
    · exact .inl (List.mem_singleton.1 mem)
  · exact .inr (isDigit_of_mem_spelling _ _ c mem)

theorem IsNumeral.isBlank_eq_false {n : Nat} {text : List Char} (spelled : IsNumeral n text) :
    ∀ c ∈ text, isBlank c = false := by
  intro c mem
  rcases spelled.shown c mem with rfl | known
  · decide
  · exact isBlank_eq_false_of_isDigit known

theorem IsNumeral.ne_nil {n : Nat} {text : List Char} (spelled : IsNumeral n text) : text ≠ [] := by
  obtain ⟨sign, zeros, -, rfl⟩ := spelled
  simp [digits_ne_nil]

/-- A number is read with the white space around it. -/
theorem numeral?_trim_eq_some_iff {text : List Char} {n : UInt64} :
    numeral? (trim text) = some n ↔ IsNumber n.toNat text := by
  rw [numeral?_eq_some_iff]
  constructor
  · exact fun spelled => ⟨trim text, spelled, isPadded_trim text⟩
  · rintro ⟨numeral, spelled, padded⟩
    rwa [(trim_eq_iff spelled.isBlank_eq_false).2 padded]

theorem IsNumber.trim_ne_nil {n : Nat} {text : List Char} (number : IsNumber n text) :
    trim text ≠ [] := by
  obtain ⟨numeral, spelled, padded⟩ := number
  rw [(trim_eq_iff spelled.isBlank_eq_false).2 padded]
  exact spelled.ne_nil

theorem IsNumber.not_mem {n : Nat} {text : List Char} (number : IsNumber n text) {c : Char}
    (shown : isBlank c = false) (sign : c ≠ '+') (digit : isDigit c = false) : c ∉ text := by
  obtain ⟨numeral, spelled, before, behind, first, last, rfl⟩ := number
  intro mem
  rcases List.mem_append.1 mem with mem | mem
  · rcases List.mem_append.1 mem with mem | mem
    · exact first.not_mem shown mem
    · rcases spelled.shown c mem with same | known
      · exact sign same
      · exact absurd known (by simp [digit])
  · exact last.not_mem shown mem

end Decimal

end SealGate.Text
