import SealGate.Proofs.Json.RoundTrip
import SealGate.Proofs.Text.Numeral

/-! A written tree is one line. Strings escape the characters below the space and nothing else that
is written is among them, so a written tree has no line break and no other control character. -/

namespace SealGate.Json

open Text

/-- No character stands below the space. -/
def IsUncontrolled (text : List Char) : Prop := ∀ c ∈ text, 32 ≤ c.toNat

instance (text : List Char) : Decidable (IsUncontrolled text) :=
  List.decidableBAll (fun c : Char => 32 ≤ c.toNat) text

theorem isUncontrolled_append {one other : List Char} :
    IsUncontrolled (one ++ other) ↔ IsUncontrolled one ∧ IsUncontrolled other :=
  List.forall_mem_append

theorem isUncontrolled_cons {c : Char} {text : List Char} :
    IsUncontrolled (c :: text) ↔ 32 ≤ c.toNat ∧ IsUncontrolled text := List.forall_mem_cons

theorem isUncontrolled_nil : IsUncontrolled [] := List.forall_mem_nil _

theorem IsUncontrolled.not_mem_newline {text : List Char} (free : IsUncontrolled text) :
    '\n' ∉ text := fun mem => absurd (free '\n' mem) (by decide)

/-! ### Strings and numbers -/

theorem isUncontrolled_unitEscape (unit : Nat) : IsUncontrolled (unitEscape unit) := by
  have digit (n : Nat) : 32 ≤ (Hex.digit (n % 16)).toNat := by
    have all : ∀ d < 16, 32 ≤ (Hex.digit d).toNat := by decide
    exact all _ (Nat.mod_lt n (by decide))
  simp only [unitEscape, isUncontrolled_cons, digit, isUncontrolled_nil, and_true]
  decide

theorem isUncontrolled_renderChar (c : Char) : IsUncontrolled (Piece.renderChar c) := by
  unfold Piece.renderChar
  split
  case h_8 =>
    split
    · exact isUncontrolled_unitEscape _
    · rename_i shown
      exact isUncontrolled_cons.2 ⟨Nat.not_lt.1 shown, isUncontrolled_nil⟩
  all_goals decide

theorem isUncontrolled_renderAll (pieces : List Piece) :
    IsUncontrolled (Piece.renderAll pieces) := by
  have each : IsUncontrolled (pieces.flatMap Piece.render) := by
    intro c mem
    obtain ⟨piece, -, held⟩ := List.mem_flatMap.1 mem
    cases piece with
    | char other => exact isUncontrolled_renderChar other c held
    | surrogate unit => exact isUncontrolled_unitEscape unit c held
  rw [Piece.renderAll, isUncontrolled_cons, isUncontrolled_append]
  exact ⟨by decide, each, by decide⟩

theorem isUncontrolled_digits {run : List Char} (all : ∀ c ∈ run, Decimal.isDigit c = true) :
    IsUncontrolled run := fun c mem => by
  have digit := (Decimal.toNat_of_isDigit (all c mem)).1
  omega

theorem Numeral.IsProper.isUncontrolled {n : Numeral} (proper : n.IsProper) :
    IsUncontrolled n.render := by
  have sign : IsUncontrolled (if n.negative then ['-'] else []) := by
    cases n.negative <;> decide
  have fraction : IsUncontrolled (if n.fraction = [] then [] else '.' :: n.fraction) := by
    split
    · exact isUncontrolled_nil
    · exact isUncontrolled_cons.2 ⟨by decide, isUncontrolled_digits proper.fraction⟩
  have exponent : IsUncontrolled (renderExponent n.exponent) := by
    rcases known : n.exponent with _ | ⟨mark, digits⟩
    · exact isUncontrolled_nil
    · have behind := isUncontrolled_digits (proper.exponent mark digits known).2
      rw [renderExponent, isUncontrolled_cons, isUncontrolled_append]
      exact ⟨by decide, by cases mark <;> decide, behind⟩
  simp only [Numeral.render, isUncontrolled_append]
  exact ⟨⟨⟨sign, isUncontrolled_digits proper.whole⟩, fraction⟩, exponent⟩

/-! ### Trees -/

theorem isUncontrolled_joinComma {texts : List (List Char)}
    (each : ∀ text ∈ texts, IsUncontrolled text) : IsUncontrolled (joinComma texts) := by
  fun_induction joinComma texts with
  | case1 => exact isUncontrolled_nil
  | case2 text => exact each text (by simp)
  | case3 text rest filled ih =>
    rw [isUncontrolled_append, isUncontrolled_cons]
    exact ⟨each text (by simp), by decide, ih fun other mem => each other (by simp [mem])⟩

theorem Node.renderElements_eq (elements : List Node) :
    renderElements elements = elements.map renderChars := by
  induction elements with
  | nil => rfl
  | cons node elements ih => rw [renderElements, ih, List.map_cons]

theorem Node.renderMembers_eq (members : List (List Piece × Node)) :
    renderMembers members =
      members.map fun member => Piece.renderAll member.1 ++ ':' :: member.2.renderChars := by
  induction members with
  | nil => rfl
  | cons member members ih => rw [renderMembers, ih, List.map_cons]

theorem Node.IsProper.isUncontrolled {node : Node} (proper : node.IsProper) :
    IsUncontrolled node.renderChars := by
  induction proper with
  | null => decide
  | bool b => cases b <;> decide
  | number proper => exact proper.isUncontrolled
  | string proper => exact isUncontrolled_renderAll _
  | @array elements proper ih =>
    have each : ∀ text ∈ renderElements elements, IsUncontrolled text := by
      rw [renderElements_eq]
      exact List.forall_mem_map.2 ih
    rw [renderChars, isUncontrolled_cons, isUncontrolled_append]
    exact ⟨by decide, isUncontrolled_joinComma each, by decide⟩
  | @object members keys proper ih =>
    have each : ∀ text ∈ renderMembers members, IsUncontrolled text := by
      rw [renderMembers_eq]
      refine List.forall_mem_map.2 fun member mem => ?_
      rw [isUncontrolled_append, isUncontrolled_cons]
      exact ⟨isUncontrolled_renderAll _, by decide, ih member mem⟩
    rw [renderChars, isUncontrolled_cons, isUncontrolled_append]
    exact ⟨by decide, isUncontrolled_joinComma each, by decide⟩

end SealGate.Json
