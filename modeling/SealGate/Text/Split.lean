/-! Cutting a text at a leading piece, at the first or the last occurrence of a character, or at all
of them. -/

namespace SealGate.Text

/-- The text after a leading piece, if it starts with that piece. -/
def after? : (lead text : List Char) → Option (List Char)
  | [], text => some text
  | _ :: _, [] => none
  | l :: lead, c :: text => if l = c then after? lead text else none

/-- The texts before and after the first occurrence of a character. -/
def splitFirst (mark : Char) : List Char → Option (List Char × List Char)
  | [] => none
  | c :: text =>
    if c = mark then some ([], text)
    else (splitFirst mark text).map fun (before, behind) => (c :: before, behind)

/-- The text up to and including the last occurrence of a character. -/
def uptoLast? (mark : Char) : List Char → Option (List Char)
  | [] => none
  | c :: text =>
    match uptoLast? mark text with
    | some kept => some (c :: kept)
    | none => if c = mark then some [c] else none

/-- The pieces between the characters of a kind, one more than there are such characters. -/
def pieces (isMark : Char → Bool) : List Char → List (List Char)
  | [] => [[]]
  | c :: text =>
    if isMark c then [] :: pieces isMark text
    else
      match pieces isMark text with
      | first :: rest => (c :: first) :: rest
      | [] => [[c]]

/-- Drops every trailing occurrence of a character. -/
def dropTrailing (mark : Char) (text : List Char) : List Char :=
  (text.reverse.dropWhile (· == mark)).reverse

theorem after?_eq_some_iff {lead text rest : List Char} :
    after? lead text = some rest ↔ text = lead ++ rest := by
  induction lead generalizing text with
  | nil => simp [after?]
  | cons l lead ih =>
    cases text with
    | nil => simp [after?]
    | cons c text =>
      by_cases h : l = c
      · simp [after?, h, ih]
      · simp [after?, h, Ne.symm h]

@[simp] theorem after?_append (lead rest : List Char) : after? lead (lead ++ rest) = some rest :=
  after?_eq_some_iff.2 rfl

theorem splitFirst_eq_some_iff {mark : Char} {text before behind : List Char} :
    splitFirst mark text = some (before, behind) ↔
      text = before ++ mark :: behind ∧ mark ∉ before := by
  induction text generalizing before with
  | nil => simp [splitFirst]
  | cons c text ih =>
    by_cases h : c = mark
    · subst h
      cases before <;> simp [splitFirst]
      intro h1 _ h2; exact absurd h1 h2
    · cases before with
      | nil => simp [splitFirst, h]
      | cons b before =>
        simp only [splitFirst, h, if_false, Option.map_eq_some_iff, Prod.exists, Prod.mk.injEq,
          List.cons.injEq, List.cons_append, List.mem_cons, not_or]
        constructor
        · rintro ⟨x, y, hxy, ⟨rfl, rfl⟩, rfl⟩
          exact ⟨⟨rfl, (ih.1 hxy).1⟩, fun hm => h hm.symm, (ih.1 hxy).2⟩
        · rintro ⟨⟨rfl, ht⟩, _, hm⟩
          exact ⟨before, behind, ih.2 ⟨ht, hm⟩, ⟨rfl, rfl⟩, rfl⟩

theorem splitFirst_eq_none_iff {mark : Char} {text : List Char} :
    splitFirst mark text = none ↔ mark ∉ text := by
  induction text with
  | nil => simp [splitFirst]
  | cons c text ih =>
    by_cases h : c = mark
    · simp [splitFirst, h]
    · simp [splitFirst, h, ih, Ne.symm h]

end SealGate.Text
