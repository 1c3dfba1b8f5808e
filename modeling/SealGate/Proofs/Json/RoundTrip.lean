import SealGate.Proofs.Json.Tokens

/-! Trees are read back as they are written. A tree is proper if its numbers and strings are ones
that a text can spell; reading the text of a proper tree gives the tree, with nothing left over. The
fuel of the reader is the bound that counts: two units for each character are enough. -/

namespace SealGate.Json

/-- Every number and every string in the tree can be spelled. -/
inductive Node.IsProper : Node → Prop
  | null : IsProper .null
  | bool (b : Bool) : IsProper (.bool b)
  | number {n : Numeral} (proper : n.IsProper) : IsProper (.number n)
  | string {pieces : List Piece} (proper : ∀ piece ∈ pieces, piece.IsProper) :
    IsProper (.string pieces)
  | array {elements : List Node} (proper : ∀ node ∈ elements, IsProper node) :
    IsProper (.array elements)
  | object {members : List (List Piece × Node)}
    (keys : ∀ member ∈ members, ∀ piece ∈ member.1, piece.IsProper)
    (proper : ∀ member ∈ members, IsProper member.2) : IsProper (.object members)

namespace Parser

@[simp] theorem skipBlank_cons {c : Char} (shown : isBlank c = false) (text : List Char) :
    skipBlank (c :: text) = c :: text := by
  rw [skipBlank, List.dropWhile_cons_of_neg (by simp [shown])]

theorem isBlank_eq_false_of_isDigit {c : Char} (digit : Text.Decimal.isDigit c = true) :
    isBlank c = false := by
  have other : c ≠ ' ' ∧ c ≠ '\n' ∧ c ≠ '\t' ∧ c ≠ '\r' := by
    refine ⟨?_, ?_, ?_, ?_⟩ <;>
    · rintro rfl
      exact absurd digit (by decide)
  simp [isBlank, other]

/-- A written tree starts with a character that is no blank and closes nothing. -/
theorem head_renderChars {node : Node} (proper : node.IsProper) :
    ∃ c behind, node.renderChars = c :: behind ∧ isBlank c = false ∧ c ≠ ']' := by
  cases proper with
  | null => exact ⟨'n', _, rfl, by decide, by decide⟩
  | bool b =>
    cases b
    · exact ⟨'f', _, rfl, by decide, by decide⟩
    · exact ⟨'t', _, rfl, by decide, by decide⟩
  | number proper =>
    obtain ⟨c, behind, text, start⟩ := head_renderNumeral proper
    refine ⟨c, behind, text, ?_, ?_⟩
    · rcases start with rfl | digit
      · decide
      · exact isBlank_eq_false_of_isDigit digit
    · rintro rfl
      exact absurd start (by decide)
  | string => exact ⟨'"', _, rfl, by decide, by decide⟩
  | array => exact ⟨'[', _, rfl, by decide, by decide⟩
  | object => exact ⟨'\x7b', _, rfl, by decide, by decide⟩

/-- The tree is read from its text with enough fuel, whatever follows the text. -/
structure Reads (node : Node) : Prop where
  head : ∃ c behind, node.renderChars = c :: behind ∧ isBlank c = false ∧ c ≠ ']'
  value : ∀ (fuel : Nat) (rest : List Char), 2 * node.renderChars.length ≤ fuel + 1 →
    EndsNumber rest → Parser.value fuel (node.renderChars ++ rest) = some (node, rest)

/-- A number is told from its first character. -/
theorem value_number {c : Char} (start : c = '-' ∨ Text.Decimal.isDigit c = true) (fuel : Nat)
    (text : List Char) :
    value (fuel + 1) (c :: text) =
      (numeral? (c :: text)).map fun (n, rest) => (.number n, rest) := by
  have other (d : Char) (no : ¬ (d = '-' ∨ Text.Decimal.isDigit d = true)) : c ≠ d := by
    rintro rfl
    exact no start
  rw [value]
  · exact fun _ same => other 'n' (by decide) (List.cons.inj same).1
  · exact fun _ same => other 't' (by decide) (List.cons.inj same).1
  · exact fun _ same => other 'f' (by decide) (List.cons.inj same).1
  · exact fun _ same => other '"' (by decide) (List.cons.inj same).1
  · exact fun _ same => other '[' (by decide) (List.cons.inj same).1
  · exact fun _ same => other '\x7b' (by decide) (List.cons.inj same).1

/-- Texts put together start as the first of them does. -/
theorem head_joinComma (c : Char) (behind : List Char) (texts : List (List Char)) :
    ∃ tail, joinComma ((c :: behind) :: texts) = c :: tail := by
  cases texts with
  | nil => exact ⟨_, rfl⟩
  | cons text texts => exact ⟨_, rfl⟩

/-- In front of a written tree no blank is skipped. -/
theorem Reads.skipBlank {node : Node} (reads : Reads node) (rest : List Char) :
    skipBlank (node.renderChars ++ rest) = node.renderChars ++ rest := by
  obtain ⟨c, behind, text, shown, -⟩ := reads.head
  rw [text, List.cons_append, skipBlank_cons shown]

/-- Before the elements of an array no blank is skipped. -/
theorem skipBlank_elements {node : Node} (reads : Reads node) (nodes : List Node)
    (rest : List Char) :
    ∃ c tail, joinComma (Node.renderElements (node :: nodes)) ++ rest = c :: tail ∧ c ≠ ']' ∧
      skipBlank (joinComma (Node.renderElements (node :: nodes)) ++ rest) = c :: tail := by
  obtain ⟨c, behind, text, shown, opens⟩ := reads.head
  obtain ⟨tail, joined⟩ := head_joinComma c behind (Node.renderElements nodes)
  have whole : joinComma (Node.renderElements (node :: nodes)) ++ rest = c :: (tail ++ rest) := by
    rw [Node.renderElements, text, joined, List.cons_append]
  exact ⟨c, tail ++ rest, whole, opens, by rw [whole, skipBlank_cons shown]⟩

theorem joinComma_elements (node next : Node) (nodes : List Node) :
    joinComma (Node.renderElements (node :: next :: nodes)) =
      node.renderChars ++ ',' :: joinComma (Node.renderElements (next :: nodes)) := rfl

/-- The elements of an array are read up to its closing bracket. -/
theorem elements_render {node : Node} {nodes : List Node}
    (reads : ∀ other ∈ node :: nodes, Reads other) (fuel : Nat) (rest : List Char)
    (enough : 2 * (joinComma (Node.renderElements (node :: nodes))).length ≤ fuel) :
    elements fuel (joinComma (Node.renderElements (node :: nodes)) ++ ']' :: rest) =
      some (node :: nodes, rest) := by
  induction nodes generalizing node fuel with
  | nil =>
    have one : joinComma (Node.renderElements [node]) = node.renderChars := rfl
    rw [one] at enough ⊢
    obtain ⟨c, behind, text, -, -⟩ := (reads node (by simp)).head
    obtain ⟨fuel, rfl⟩ : ∃ less, fuel = less + 1 := by
      rw [text, List.length_cons] at enough
      exact ⟨fuel - 1, by omega⟩
    have read := (reads node (by simp)).value fuel (']' :: rest) (by omega) (.cons (by decide) _)
    rw [elements, read]
    rfl
  | cons next nodes ih =>
    have comma (text : List Char) : skipBlank (',' :: text) = ',' :: text :=
      skipBlank_cons (by decide) text
    obtain ⟨c, tail, whole, -, skipped⟩ := skipBlank_elements (reads next (by simp)) nodes
      (']' :: rest)
    rw [joinComma_elements, List.length_append, List.length_cons] at enough
    obtain ⟨fuel, rfl⟩ : ∃ less, fuel = less + 1 := ⟨fuel - 1, by omega⟩
    have read := (reads node (by simp)).value fuel
      (',' :: (joinComma (Node.renderElements (next :: nodes)) ++ ']' :: rest)) (by omega)
      (.cons (by decide) _)
    have behind : elements fuel (joinComma (Node.renderElements (next :: nodes)) ++ ']' :: rest) =
        some (next :: nodes, rest) :=
      ih (fun other mem => reads other (by simp [mem])) fuel (by omega)
    rw [joinComma_elements, List.append_assoc, List.cons_append, elements, read]
    simp only [Option.bind_eq_bind, Option.bind_some, comma]
    rw [skipped, ← whole, behind]
    rfl

theorem reads_array {elements : List Node} (reads : ∀ node ∈ elements, Reads node) :
    Reads (.array elements) where
  head := ⟨'[', _, rfl, by decide, by decide⟩
  value fuel rest enough ends := by
    rw [Node.renderChars, List.length_cons, List.length_append, List.length_singleton] at enough
    obtain ⟨fuel, rfl⟩ : ∃ less, fuel = less + 1 := ⟨fuel - 1, by omega⟩
    rw [Node.renderChars, List.cons_append, List.append_assoc, List.singleton_append, value]
    cases elements with
    | nil => rfl
    | cons node nodes =>
      have found := elements_render reads fuel rest (by omega)
      obtain ⟨c, tail, whole, opens, skipped⟩ := skipBlank_elements (reads node (by simp)) nodes
        (']' :: rest)
      rw [skipped]
      split
      · rename_i same
        exact absurd (List.cons.inj same).1 opens
      · rw [← whole, found]
        rfl

theorem joinComma_members (key : List Piece) (node : Node) (next : List Piece × Node)
    (members : List (List Piece × Node)) :
    joinComma (Node.renderMembers ((key, node) :: next :: members)) =
      '"' :: (key.flatMap Piece.render ++ '"' :: ':' :: (node.renderChars ++
        ',' :: joinComma (Node.renderMembers (next :: members)))) := by
  obtain ⟨other, value⟩ := next
  simp [Node.renderMembers, joinComma, Piece.renderAll]

theorem joinComma_member (key : List Piece) (node : Node) :
    joinComma (Node.renderMembers [(key, node)]) =
      '"' :: (key.flatMap Piece.render ++ '"' :: ':' :: node.renderChars) := by
  simp [Node.renderMembers, joinComma, Piece.renderAll]

theorem head_members (member : List Piece × Node) (members : List (List Piece × Node)) :
    ∃ tail, joinComma (Node.renderMembers (member :: members)) = '"' :: tail := by
  obtain ⟨key, node⟩ := member
  exact head_joinComma '"' _ (Node.renderMembers members)

/-- A member is read up to the comma or the brace behind it. -/
theorem members_cons {key : List Piece} {node : Node} (spelled : ∀ piece ∈ key, piece.IsProper)
    (reads : Reads node) {fuel : Nat} {mark : Char} (closes : mark = '\x7d' ∨ mark = ',')
    (rest : List Char) (enough : 2 * node.renderChars.length ≤ fuel + 1) :
    members (fuel + 1) ('"' :: (key.flatMap Piece.render ++ '"' :: ':' :: (node.renderChars ++
        mark :: rest))) =
      match mark :: rest with
      | '\x7d' :: rest => some ([(key, node)], rest)
      | ',' :: rest => (members fuel (Parser.skipBlank rest)).map fun found =>
        ((key, node) :: found.1, found.2)
      | _ => none := by
  have ends : continues mark = false ∧ isBlank mark = false := by
    rcases closes with rfl | rfl <;> decide
  have read := reads.value fuel (mark :: rest) enough (.cons ends.1 _)
  have colon (text : List Char) : Parser.skipBlank (':' :: text) = ':' :: text :=
    skipBlank_cons (by decide) text
  rw [members]
  simp only [stringBody_flatMap spelled, Option.bind_eq_bind, Option.bind_some, colon,
    reads.skipBlank, read, skipBlank_cons ends.2]
  rcases closes with rfl | rfl
  · rfl
  · cases found : members fuel (Parser.skipBlank rest) <;> simp [found]

/-- The members of an object are read up to its closing brace. -/
theorem members_render {member : List Piece × Node} {behind : List (List Piece × Node)}
    (keys : ∀ other ∈ member :: behind, ∀ piece ∈ other.1, piece.IsProper)
    (reads : ∀ other ∈ member :: behind, Reads other.2) (fuel : Nat) (rest : List Char)
    (enough : 2 * (joinComma (Node.renderMembers (member :: behind))).length ≤ fuel) :
    members fuel (joinComma (Node.renderMembers (member :: behind)) ++ '\x7d' :: rest) =
      some (member :: behind, rest) := by
  induction behind generalizing member fuel with
  | nil =>
    obtain ⟨key, node⟩ := member
    have spelled : ∀ piece ∈ key, piece.IsProper := keys (key, node) (by simp)
    have read : Reads node := reads (key, node) (by simp)
    simp only [joinComma_member, List.length_cons, List.length_append] at enough
    obtain ⟨fuel, rfl⟩ : ∃ less, fuel = less + 1 := ⟨fuel - 1, by omega⟩
    have last := members_cons spelled read (.inl rfl) rest
      (show 2 * node.renderChars.length ≤ fuel + 1 by omega)
    simp only [joinComma_member, List.cons_append, List.append_assoc]
    exact last
  | cons next behind ih =>
    obtain ⟨key, node⟩ := member
    have spelled : ∀ piece ∈ key, piece.IsProper := keys (key, node) (by simp)
    have read : Reads node := reads (key, node) (by simp)
    simp only [joinComma_members, List.length_cons, List.length_append] at enough
    obtain ⟨fuel, rfl⟩ : ∃ less, fuel = less + 1 := ⟨fuel - 1, by omega⟩
    have others : members fuel (joinComma (Node.renderMembers (next :: behind)) ++ '\x7d' :: rest) =
        some (next :: behind, rest) :=
      ih (fun other mem => keys other (by simp [mem]))
        (fun other mem => reads other (by simp [mem])) fuel (by omega)
    obtain ⟨tail, front⟩ := head_members next behind
    have more := members_cons spelled read (.inr rfl)
      (joinComma (Node.renderMembers (next :: behind)) ++ '\x7d' :: rest)
      (show 2 * node.renderChars.length ≤ fuel + 1 by omega)
    have start : Parser.skipBlank (joinComma (Node.renderMembers (next :: behind)) ++
        '\x7d' :: rest) = joinComma (Node.renderMembers (next :: behind)) ++ '\x7d' :: rest := by
      rw [front]
      exact skipBlank_cons (by decide) _
    simp only [start, others] at more
    simp only [joinComma_members, List.cons_append, List.append_assoc]
    exact more

theorem reads_object {members : List (List Piece × Node)}
    (keys : ∀ member ∈ members, ∀ piece ∈ member.1, piece.IsProper)
    (reads : ∀ member ∈ members, Reads member.2) : Reads (.object members) where
  head := ⟨'\x7b', _, rfl, by decide, by decide⟩
  value fuel rest enough ends := by
    rw [Node.renderChars, List.length_cons, List.length_append, List.length_singleton] at enough
    obtain ⟨fuel, rfl⟩ : ∃ less, fuel = less + 1 := ⟨fuel - 1, by omega⟩
    rw [Node.renderChars, List.cons_append, List.append_assoc, List.singleton_append, value]
    cases members with
    | nil => rfl
    | cons member behind =>
      have found := members_render keys reads fuel rest (by omega)
      obtain ⟨tail, front⟩ := head_members member behind
      rw [front, List.cons_append] at found ⊢
      rw [skipBlank_cons (by decide)]
      split
      · rename_i same
        exact absurd (List.cons.inj same).1 (by decide)
      · rw [found]
        rfl

/-- A tree without parts is read in one step. -/
theorem reads_of_step {node : Node} (proper : node.IsProper)
    (step : ∀ (fuel : Nat) (rest : List Char), EndsNumber rest →
      value (fuel + 1) (node.renderChars ++ rest) = some (node, rest)) : Reads node where
  head := head_renderChars proper
  value fuel rest enough ends := by
    obtain ⟨c, behind, text, -, -⟩ := head_renderChars proper
    rw [text, List.length_cons] at enough
    obtain ⟨fuel, rfl⟩ : ∃ less, fuel = less + 1 := ⟨fuel - 1, by omega⟩
    exact step fuel rest ends

/-- Every proper tree is read from its text. -/
theorem reads_of_isProper {node : Node} (proper : node.IsProper) : Reads node := by
  induction proper with
  | null => exact reads_of_step .null fun fuel rest _ => rfl
  | bool b =>
    refine reads_of_step (.bool b) fun fuel rest _ => ?_
    cases b <;> rfl
  | number proper =>
    refine reads_of_step (.number proper) fun fuel rest ends => ?_
    obtain ⟨c, behind, text, start⟩ := head_renderNumeral proper
    have found := numeral?_render proper ends
    rw [Node.renderChars]
    rw [text, List.cons_append] at found ⊢
    rw [value_number start, found]
    rfl
  | string proper =>
    refine reads_of_step (.string proper) fun fuel rest _ => ?_
    have found := stringBody_flatMap proper rest
    rw [Node.renderChars, Piece.renderAll, List.cons_append, List.append_assoc, value]
    simp only [List.singleton_append, found]
    rfl
  | array proper ih => exact reads_array ih
  | object keys proper ih => exact reads_object keys ih

end Parser

namespace Node

theorem parse?_render {node : Node} (proper : node.IsProper) : parse? node.render = some node := by
  have reads := Parser.reads_of_isProper proper
  have whole := reads.value (2 * node.renderChars.length + 1) [] (by omega) .nil
  have start := reads.skipBlank []
  rw [List.append_nil] at whole start
  rw [parse?, render, String.toList_ofList, parseChars?, start, whole]
  rfl

/-- Reading the bytes of a proper tree gives the tree. -/
theorem ofBytes?_toBytes {node : Node} (proper : node.IsProper) :
    ofBytes? node.toBytes = some node := by
  rw [toBytes, ofBytes?_ofText, parse?_render proper]

theorem isProper_ofText (text : String) : (ofText text).IsProper := by
  refine .string fun piece mem => ?_
  obtain ⟨c, -, rfl⟩ := List.mem_map.1 mem
  trivial

theorem isProper_ofNat (n : Nat) : (ofNat n).IsProper := .number (Numeral.isProper_ofNat n)

end Node

end SealGate.Json
