import SealGate.Http.ByteRange
import SealGate.Proofs.Text.Numeral

/-! The grammar of a `Range` header. A value asks for the whole file, for several ranges, for all
from a place on, or for the bytes between two places; which of these, and of which places, is a
relation on the text without the white space around it. Reading finds what the relation says and
refuses every other text, so no closed range is taken for one that goes on to the end, and one
closed range alone is too long to be counted. -/

namespace SealGate.Http.ByteRange

open Text Decimal

/-! ### The kinds of values -/

/-- The whole file: nothing at all, or the unit with nothing behind it. -/
def IsWhole (text : List Char) : Prop :=
  text = [] ∨ ∃ blanks, IsBlankText blanks ∧ text = unit ++ blanks

/-- More than one range: a comma behind the unit. -/
def IsSeveral (text : List Char) : Prop := ∃ spec, ',' ∈ spec ∧ text = unit ++ spec

/-- All from a place on: `bytes=first-`. -/
def IsToEnd (first : UInt64) (text : List Char) : Prop :=
  ∃ before behind, IsNumber first.toNat before ∧ IsBlankText behind ∧
    text = unit ++ (before ++ '-' :: behind)

/-- The bytes between two places, both included: `bytes=first-last`. -/
def IsBetween (first last : UInt64) (text : List Char) : Prop :=
  ∃ before behind, IsNumber first.toNat before ∧ IsNumber last.toNat behind ∧
    text = unit ++ (before ++ '-' :: behind)

/-- The farthest place that a number of 64 bits can name. -/
def farthest : UInt64 := UInt64.ofNat (2 ^ 64 - 1)

theorem toNat_farthest : farthest.toNat = 2 ^ 64 - 1 := by decide

/-- What a text without white space around it asks for. -/
inductive Asks (text : List Char) : Except Error (Option ByteRange) → Prop
  | whole : IsWhole text → Asks text (.ok none)
  | several : IsSeveral text → Asks text (.error .multipleRanges)
  | toEnd {first : UInt64} : IsToEnd first text → Asks text (.ok (some ⟨first, 0⟩))
  | between {first last length : UInt64} : IsBetween first last text → first ≤ last →
      length.toNat = last.toNat - first.toNat + 1 → Asks text (.ok (some ⟨first, length⟩))
  | overflow : IsBetween 0 farthest text → Asks text (.error .overflow)

/-! ### Bounds -/

section Bounds

variable {first last : UInt64} {before behind : List Char}

theorem splitFirst_number {n : Nat} (number : IsNumber n before) (behind : List Char) :
    splitFirst '-' (before ++ '-' :: behind) = some (before, behind) :=
  splitFirst_eq_some_iff.2 ⟨rfl, number.not_mem (by decide) (by decide) (by decide)⟩

theorem parseBounds_toEnd (start : IsNumber first.toNat before) (blank : IsBlankText behind) :
    parseBounds (before ++ '-' :: behind) = .ok ⟨first, 0⟩ := by
  simp only [parseBounds, splitFirst_number start, numeral?_trim_eq_some_iff.2 start,
    trim_eq_nil_iff.2 blank, if_true]

theorem parseBounds_between (start : IsNumber first.toNat before)
    (stop : IsNumber last.toNat behind) :
    parseBounds (before ++ '-' :: behind) = closed first last := by
  simp only [parseBounds, splitFirst_number start, numeral?_trim_eq_some_iff.2 start,
    numeral?_trim_eq_some_iff.2 stop, stop.trim_ne_nil, if_false]

/-- White space around the bounds goes to the numbers in them. -/
theorem parseBounds_trim (spec : List Char) : parseBounds (trim spec) = parseBounds spec := by
  obtain ⟨first, last, leads, trails, whole⟩ := isPadded_trim spec
  have apart : ∀ {blanks : List Char}, IsBlankText blanks → '-' ∉ blanks :=
    fun blank => blank.not_mem (by decide)
  cases inner : splitFirst '-' (trim spec) with
  | none =>
    have outer : splitFirst '-' spec = none := by
      rw [splitFirst_eq_none_iff] at inner ⊢
      rw [whole, List.mem_append, List.mem_append]
      exact fun mem => mem.elim (fun mem => mem.elim (apart leads) inner) (apart trails)
    simp only [parseBounds, inner, outer]
  | some parts =>
    obtain ⟨before, behind⟩ := parts
    obtain ⟨text, front⟩ := splitFirst_eq_some_iff.1 inner
    have outer : splitFirst '-' spec = some (first ++ before, behind ++ last) := by
      rw [text] at whole
      refine splitFirst_eq_some_iff.2 ⟨by rw [whole]; simp, fun mem => ?_⟩
      exact (List.mem_append.1 mem).elim (apart leads) front
    simp only [parseBounds, inner, outer, trim_blank_append leads, trim_append_blank trails]

/-- Bounds that are not refused for their text are two numbers, or one with nothing behind it. -/
theorem parseBounds_cases (spec : List Char) :
    parseBounds spec = .error .invalid ∨ ∃ first before behind, spec = before ++ '-' :: behind ∧
      IsNumber (UInt64.toNat first) before ∧
        (IsBlankText behind ∨ ∃ last, IsNumber (UInt64.toNat last) behind) := by
  cases split : splitFirst '-' spec with
  | none => exact .inl (by simp only [parseBounds, split])
  | some parts =>
    obtain ⟨before, behind⟩ := parts
    obtain ⟨text, -⟩ := splitFirst_eq_some_iff.1 split
    cases start : numeral? (trim before) with
    | none => exact .inl (by simp only [parseBounds, split, start])
    | some first =>
      have number := numeral?_trim_eq_some_iff.1 start
      by_cases blank : trim behind = []
      · exact .inr ⟨first, before, behind, text, number, .inl (trim_eq_nil_iff.1 blank)⟩
      cases stop : numeral? (trim behind) with
      | none => exact .inl (by simp only [parseBounds, split, start, stop, blank, if_false])
      | some last =>
        exact .inr ⟨first, before, behind, text, number,
          .inr ⟨last, numeral?_trim_eq_some_iff.1 stop⟩⟩

/-- Places in order have a length, unless they are the first and the last of all. -/
theorem closed_eq_ok {length : UInt64} (order : first ≤ last)
    (exact : length.toNat = last.toNat - first.toNat + 1) :
    closed first last = .ok ⟨first, length⟩ := by
  have fits := length.toNat_lt
  have apart := UInt64.toNat_sub_of_le _ _ order
  have most := toNat_farthest
  have short : last - first ≠ farthest := by
    intro same
    have number := congrArg UInt64.toNat same
    omega
  have next : last - first + 1 = length := by
    rw [← UInt64.toNat_inj, UInt64.toNat_add, apart, exact, UInt64.toNat_one]
    exact Nat.mod_eq_of_lt (by omega)
  rw [closed, ← farthest, if_neg (UInt64.not_lt.2 order), if_neg short, next]

theorem closed_farthest : closed 0 farthest = .error .overflow := by decide

/-- All bytes that a number can name are one too many for a length. -/
theorem farthest_or_length (order : first ≤ last) : first = 0 ∧ last = farthest ∨
    ∃ length : UInt64, length.toNat = last.toNat - first.toNat + 1 := by
  have below := last.toNat_lt
  have apart := UInt64.le_iff_toNat_le.1 order
  have most := toNat_farthest
  by_cases long : last.toNat - first.toNat + 1 = 2 ^ 64
  · refine .inl ⟨UInt64.toNat_inj.1 ?_, UInt64.toNat_inj.1 ?_⟩
    · rw [UInt64.toNat_zero]
      omega
    · omega
  · refine .inr ⟨UInt64.ofNat (last.toNat - first.toNat + 1), ?_⟩
    rw [UInt64.toNat_ofNat', Nat.mod_eq_of_lt (by omega)]

/-- Places in order ask for something, if only for too much. -/
theorem IsBetween.exists_asks {text : List Char} (between : IsBetween first last text)
    (order : first ≤ last) : ∃ result, Asks text result := by
  rcases farthest_or_length order with ⟨rfl, rfl⟩ | ⟨length, exact⟩
  · exact ⟨_, .overflow between⟩
  · exact ⟨_, .between between order exact⟩

end Bounds

/-! ### Reading -/

theorem parseChars_of_unit {raw spec : List Char} (text : trim raw = unit ++ spec) :
    parseChars raw =
      if ',' ∈ spec then .error .multipleRanges
      else if trim spec = [] then .ok none else (parseBounds spec).map some := by
  have filled : unit ++ spec ≠ [] := List.append_ne_nil_of_left_ne_nil (by decide) _
  rw [parseChars, text, if_neg filled, after?_append]
  simp only [parseBounds_trim]

/-- A text with a hyphen and without a comma behind the unit is read by its bounds. -/
theorem parseChars_of_bounds {raw before behind : List Char}
    (text : trim raw = unit ++ (before ++ '-' :: behind)) (front : ',' ∉ before)
    (back : ',' ∉ behind) :
    parseChars raw = (parseBounds (before ++ '-' :: behind)).map some := by
  have single : ',' ∉ before ++ '-' :: behind := by simp [front, back]
  have shown : trim (before ++ '-' :: behind) ≠ [] := by
    rw [ne_eq, trim_eq_nil_iff]
    exact fun blank => absurd (blank '-' (by simp)) (by decide)
  rw [parseChars_of_unit text, if_neg single, if_neg shown]

theorem comma_not_mem_number {n : Nat} {text : List Char} (number : IsNumber n text) :
    ',' ∉ text := number.not_mem (by decide) (by decide) (by decide)

theorem parseChars_of_toEnd {raw : List Char} {first : UInt64}
    (toEnd : IsToEnd first (trim raw)) : parseChars raw = .ok (some ⟨first, 0⟩) := by
  obtain ⟨before, behind, start, blank, text⟩ := toEnd
  rw [parseChars_of_bounds text (comma_not_mem_number start) (blank.not_mem (by decide)),
    parseBounds_toEnd start blank]
  rfl

theorem parseChars_of_between {raw : List Char} {first last : UInt64}
    (between : IsBetween first last (trim raw)) :
    parseChars raw = (closed first last).map some := by
  obtain ⟨before, behind, start, stop, text⟩ := between
  rw [parseChars_of_bounds text (comma_not_mem_number start) (comma_not_mem_number stop),
    parseBounds_between start stop]

/-- What a text asks for is what it is read as. -/
theorem Asks.parseChars_eq {raw : List Char} {result : Except Error (Option ByteRange)}
    (asks : Asks (trim raw) result) : parseChars raw = result := by
  cases asks with
  | whole whole =>
    rcases whole with none | ⟨blanks, blank, text⟩
    · rw [parseChars, if_pos none]
    · rw [parseChars_of_unit text, if_neg (blank.not_mem (by decide)),
        if_pos (trim_eq_nil_iff.2 blank)]
  | several several =>
    obtain ⟨spec, mem, text⟩ := several
    rw [parseChars_of_unit text, if_pos mem]
  | toEnd toEnd => exact parseChars_of_toEnd toEnd
  | between between order exact =>
    rw [parseChars_of_between between, closed_eq_ok order exact]
    rfl
  | overflow between =>
    rw [parseChars_of_between between, closed_farthest]
    rfl

/-- Every text that is not refused asks for something. -/
theorem exists_asks (raw : List Char) :
    parseChars raw = .error .invalid ∨ ∃ result, Asks (trim raw) result := by
  by_cases none : trim raw = []
  · exact .inr ⟨_, .whole (.inl none)⟩
  cases behindUnit : after? unit (trim raw) with
  | none => exact .inl (by simp only [parseChars, none, if_false, behindUnit])
  | some spec =>
    have text := after?_eq_some_iff.1 behindUnit
    by_cases several : ',' ∈ spec
    · exact .inr ⟨_, .several ⟨spec, several, text⟩⟩
    by_cases blank : trim spec = []
    · exact .inr ⟨_, .whole (.inr ⟨spec, trim_eq_nil_iff.1 blank, text⟩)⟩
    rcases parseBounds_cases spec with refused | ⟨first, before, behind, rfl, start, stop⟩
    · refine .inl ?_
      rw [parseChars_of_unit text, if_neg several, if_neg blank, refused]
      rfl
    rcases stop with blank | ⟨last, stop⟩
    · exact .inr ⟨_, .toEnd ⟨before, behind, start, blank, text⟩⟩
    have between : IsBetween first last (trim raw) := ⟨before, behind, start, stop, text⟩
    by_cases reversed : last < first
    · refine .inl ?_
      rw [parseChars_of_between between, closed, if_pos reversed]
      rfl
    · exact .inr (between.exists_asks (UInt64.not_lt.1 reversed))

theorem Asks.ne_invalid {text : List Char} : ¬ Asks text (.error .invalid) := by
  intro asks
  cases asks

theorem parseChars_eq_iff {raw : List Char} {result : Except Error (Option ByteRange)}
    (taken : result ≠ .error .invalid) : parseChars raw = result ↔ Asks (trim raw) result := by
  refine ⟨fun read => ?_, Asks.parseChars_eq⟩
  rcases exists_asks raw with refused | ⟨other, asks⟩
  · exact absurd (read.symm.trans refused) taken
  · rwa [← read, asks.parseChars_eq]

theorem parseChars_eq_invalid_iff {raw : List Char} :
    parseChars raw = .error .invalid ↔ ∀ result, ¬ Asks (trim raw) result := by
  constructor
  · intro refused result asks
    rw [asks.parseChars_eq] at refused
    exact Asks.ne_invalid (refused ▸ asks)
  · intro nothing
    exact (exists_asks raw).resolve_right fun ⟨result, asks⟩ => nothing result asks

section Kinds

variable {text : List Char} {first last : UInt64}

theorem asks_whole_iff : Asks text (.ok none) ↔ IsWhole text := by
  refine ⟨fun asks => ?_, .whole⟩
  cases asks with
  | whole whole => exact whole

theorem asks_several_iff : Asks text (.error .multipleRanges) ↔ IsSeveral text := by
  refine ⟨fun asks => ?_, .several⟩
  cases asks with
  | several several => exact several

theorem asks_toEnd_iff : Asks text (.ok (some ⟨first, 0⟩)) ↔ IsToEnd first text := by
  refine ⟨fun asks => ?_, .toEnd⟩
  cases asks with
  | toEnd toEnd => exact toEnd
  | between _ _ exact => cases exact

theorem asks_between_iff {length : UInt64} :
    Asks text (.ok (some ⟨first, length⟩)) ∧ length ≠ 0 ↔
      ∃ last, IsBetween first last text ∧ first ≤ last ∧
        length.toNat = last.toNat - first.toNat + 1 := by
  constructor
  · rintro ⟨asks, some⟩
    cases asks with
    | toEnd => exact absurd rfl some
    | between between order exact => exact ⟨_, between, order, exact⟩
  · rintro ⟨last, between, order, exact⟩
    refine ⟨.between between order exact, ?_⟩
    rintro rfl
    cases exact

theorem asks_overflow_iff : Asks text (.error .overflow) ↔ IsBetween 0 farthest text := by
  refine ⟨fun asks => ?_, .overflow⟩
  cases asks with
  | overflow between => exact between

/-- A text asks for nothing if it is of none of the kinds. -/
theorem not_asks_iff : (∀ result, ¬ Asks text result) ↔ ¬ IsWhole text ∧ ¬ IsSeveral text ∧
    (∀ first, ¬ IsToEnd first text) ∧
      ∀ first last, first ≤ last → ¬ IsBetween first last text := by
  constructor
  · intro nothing
    refine ⟨fun whole => nothing _ (.whole whole), fun several => nothing _ (.several several),
      fun first toEnd => nothing _ (.toEnd toEnd), fun first last order between => ?_⟩
    obtain ⟨result, asks⟩ := between.exists_asks order
    exact nothing result asks
  · rintro ⟨noWhole, noSeveral, noToEnd, noBetween⟩ result asks
    cases asks with
    | whole whole => exact noWhole whole
    | several several => exact noSeveral several
    | toEnd toEnd => exact noToEnd _ toEnd
    | between between order _ => exact noBetween _ _ order between
    | overflow between => exact noBetween 0 farthest (by decide) between

/-- A closed range does not go on to the end. -/
theorem IsBetween.not_isToEnd (between : IsBetween first last text) (start : UInt64) :
    ¬ IsToEnd start text := by
  obtain ⟨before, behind, number, stop, rfl⟩ := between
  rintro ⟨other, blanks, same, blank, whole⟩
  have parts := congrArg (splitFirst '-') (List.append_cancel_left whole)
  rw [splitFirst_number number, splitFirst_number same] at parts
  obtain ⟨-, rfl⟩ := Prod.mk.inj (Option.some.inj parts)
  exact stop.trim_ne_nil (trim_eq_nil_iff.2 blank)

end Kinds

/-- The result that a text without white space around it should have. -/
structure IsReading (text : List Char) (result : Except Error (Option ByteRange)) : Prop where
  whole : result = .ok none ↔ IsWhole text
  several : result = .error .multipleRanges ↔ IsSeveral text
  toEnd : ∀ first, result = .ok (some ⟨first, 0⟩) ↔ IsToEnd first text
  between : ∀ first length, result = .ok (some ⟨first, length⟩) ∧ length ≠ 0 ↔
    ∃ last, IsBetween first last text ∧ first ≤ last ∧
      length.toNat = last.toNat - first.toNat + 1
  overflow : result = .error .overflow ↔ IsBetween 0 farthest text
  invalid : result = .error .invalid ↔ ¬ IsWhole text ∧ ¬ IsSeveral text ∧
    (∀ first, ¬ IsToEnd first text) ∧ ∀ first last, first ≤ last → ¬ IsBetween first last text
  closed : ∀ first last start, IsBetween first last text → result ≠ .ok (some ⟨start, 0⟩)

/-- A header value is read by the grammar and in no other way: the whole file, several ranges, all
from a place on and the bytes between two places in order each have their own result, and what is
none of these is refused. A closed range never has length 0, and only the one from the first place
to the farthest is too long. -/
theorem parse_follows_grammar (value : String) : IsReading (trim value.toList) (parse value) where
  whole := (parseChars_eq_iff (by simp)).trans asks_whole_iff
  several := (parseChars_eq_iff (by simp)).trans asks_several_iff
  toEnd first := (parseChars_eq_iff (by simp)).trans asks_toEnd_iff
  between first length := (and_congr_left' (parseChars_eq_iff (by simp))).trans asks_between_iff
  overflow := (parseChars_eq_iff (by simp)).trans asks_overflow_iff
  invalid := parseChars_eq_invalid_iff.trans not_asks_iff
  closed first last start between read :=
    between.not_isToEnd start (asks_toEnd_iff.1 ((parseChars_eq_iff (by simp)).1 read))

example : parse " bytes= +05 - 7\t" = .ok (some ⟨5, 3⟩) := by decide

end SealGate.Http.ByteRange
