import Mathlib.Data.List.Induction
import Mathlib.Data.String.Basic
import SealGate.Json.Value
import SealGate.Proofs.Json.Records

/-! Values of any shape are kept. A tree whose numbers are all integers of 64 bits has a value that
is written as another tree with the same value: nothing is lost, doubled or taken for something
else, at any depth. The two trees may differ in the order of their members, in the members that a
later one with the same key replaces, and in the spelling of strings. -/

namespace SealGate.Json

/-! ### Members in the order of their keys -/

section Members

variable {α : Type} {key : String} {value : α} {members : List (String × α)}

theorem mem_of_mem_insertMember {member : String × α}
    (mem : member ∈ insertMember key value members) :
    member = (key, value) ∨ member ∈ members := by
  fun_induction insertMember key value members with
  | case1 => exact .inl (List.mem_singleton.1 mem)
  | case2 other rest =>
    exact (List.mem_cons.1 mem).imp_right (List.mem_cons_of_mem _)
  | case3 k v rest other below => exact List.mem_cons.1 mem
  | case4 k v rest other above ih =>
    rcases List.mem_cons.1 mem with rfl | behind
    · exact .inr List.mem_cons_self
    · exact (ih behind).imp_right (List.mem_cons_of_mem _)

theorem pairwise_insertMember (ordered : members.Pairwise fun a b => a.1 < b.1) :
    (insertMember key value members).Pairwise fun a b => a.1 < b.1 := by
  fun_induction insertMember key value members with
  | case1 => exact List.pairwise_singleton _ _
  | case2 other rest => exact List.pairwise_cons.2 (List.pairwise_cons.1 ordered)
  | case3 k v rest other below =>
    refine List.pairwise_cons.2 ⟨fun member mem => ?_, ordered⟩
    rcases List.mem_cons.1 mem with rfl | behind
    · exact below
    · exact below.trans ((List.pairwise_cons.1 ordered).1 member behind)
  | case4 k v rest other above ih =>
    obtain ⟨first, behind⟩ := List.pairwise_cons.1 ordered
    refine List.pairwise_cons.2 ⟨fun member mem => ?_, ih behind⟩
    rcases mem_of_mem_insertMember mem with rfl | mem
    · exact (not_lt.1 above).lt_of_ne (Ne.symm other)
    · exact first member mem

/-- A key above all others is put at the end. -/
theorem insertMember_of_above (above : ∀ member ∈ members, member.1 < key) :
    insertMember key value members = members ++ [(key, value)] := by
  induction members with
  | nil => rfl
  | cons member members ih =>
    obtain ⟨k, v⟩ := member
    obtain ⟨first, rest⟩ := List.forall_mem_cons.1 above
    rw [insertMember, if_neg first.ne', if_neg first.asymm, ih rest, List.cons_append]

theorem orderMembers_concat (members : List (String × α)) (key : String) (value : α) :
    orderMembers (members ++ [(key, value)]) = insertMember key value (orderMembers members) := by
  simp [orderMembers]

theorem mem_of_mem_orderMembers {member : String × α} (mem : member ∈ orderMembers members) :
    member ∈ members := by
  induction members using List.reverseRecOn with
  | nil => cases mem
  | append_singleton members last ih =>
    rw [orderMembers_concat] at mem
    rw [List.mem_append, List.mem_singleton]
    exact (mem_of_mem_insertMember mem).symm.imp_left ih

theorem pairwise_orderMembers (members : List (String × α)) :
    (orderMembers members).Pairwise fun a b => a.1 < b.1 := by
  induction members using List.reverseRecOn with
  | nil => exact .nil
  | append_singleton members last ih =>
    rw [orderMembers_concat]
    exact pairwise_insertMember ih

/-- Members that are in order stay as they are. -/
theorem orderMembers_of_pairwise (ordered : members.Pairwise fun a b => a.1 < b.1) :
    orderMembers members = members := by
  induction members using List.reverseRecOn with
  | nil => rfl
  | append_singleton members last ih =>
    obtain ⟨front, -, below⟩ := List.pairwise_append.1 ordered
    rw [orderMembers_concat, ih front]
    exact insertMember_of_above fun member mem => below member mem last (List.mem_singleton.2 rfl)

end Members

theorem mem_of_mapM {α β : Type} {read : α → Option β} {list : List α} {values : List β}
    (reads : list.mapM read = some values) {value : β} (mem : value ∈ values) :
    ∃ a ∈ list, read a = some value := by
  induction list generalizing values with
  | nil =>
    obtain rfl := Option.some.inj reads
    cases mem
  | cons a list ih =>
    rw [List.mapM_cons] at reads
    obtain ⟨first, own, reads⟩ := Option.bind_eq_some_iff.1 reads
    obtain ⟨rest, others, reads⟩ := Option.bind_eq_some_iff.1 reads
    obtain rfl := Option.some.inj reads
    rcases List.mem_cons.1 mem with rfl | behind
    · exact ⟨a, List.mem_cons_self, own⟩
    · obtain ⟨b, among, read⟩ := ih others behind
      exact ⟨b, List.mem_cons_of_mem a among, read⟩

/-! ### Integers -/

/-- An integer that 64 bits hold, with a sign or without. -/
def Number.IsWord (n : Int) : Prop := -(2 ^ 63 : Nat) ≤ n ∧ n < (2 ^ 64 : Nat)

instance (n : Int) : Decidable (Number.IsWord n) := inferInstanceAs (Decidable (_ ∧ _))

/-- A numeral of such an integer; minus zero is none. -/
structure Numeral.IsInteger (n : Numeral) : Prop where
  fraction : n.fraction = []
  exponent : n.exponent = none
  range : n.negative = false ∧ Text.Decimal.value n.whole < 2 ^ 64 ∨
    n.negative = true ∧ 0 < Text.Decimal.value n.whole ∧ Text.Decimal.value n.whole ≤ 2 ^ 63

theorem Numeral.IsInteger.value? {n : Numeral} (integer : n.IsInteger) :
    ∃ value : Int, n.value? = some (.integer value) ∧ Number.IsWord value := by
  rw [Numeral.value?, if_pos ⟨integer.fraction, integer.exponent⟩]
  rcases integer.range with ⟨plus, small⟩ | ⟨minus, some, small⟩
  · exact ⟨_, if_pos ⟨plus, small⟩, by omega, by omega⟩
  · have signed : ¬ (n.negative = false ∧ Text.Decimal.value n.whole < 2 ^ 64) := by simp [minus]
    simp only [if_neg signed]
    exact ⟨_, if_pos ⟨minus, by omega, small⟩, by omega, by omega⟩

/-- An integer in range is read as it is written. -/
theorem Number.value?_toNumeral {n : Int} (word : IsWord n) :
    (Number.integer n).toNumeral.value? = some (.integer n) := by
  obtain ⟨above, below⟩ := word
  rw [Number.toNumeral, Numeral.value?, if_pos ⟨rfl, rfl⟩, Text.Decimal.value_digits]
  by_cases sign : n < 0
  · have signed : ¬ (decide (n < 0) = false ∧ n.natAbs < 2 ^ 64) := by simp [sign]
    simp only [if_neg signed]
    rw [if_pos ⟨decide_eq_true sign, by omega, by omega⟩]
    congr 2
    omega
  · rw [if_pos ⟨decide_eq_false sign, by omega⟩]
    congr 2
    omega

theorem Number.isProper_toNumeral (n : Int) : (Number.integer n).toNumeral.IsProper := by
  have unsigned := Numeral.isProper_ofNat n.natAbs
  exact ⟨unsigned.some_whole, unsigned.whole, unsigned.no_zero, unsigned.fraction,
    unsigned.exponent⟩

/-- A tree all of whose numbers are integers of 64 bits. -/
inductive Node.IsIntegral : Node → Prop
  | null : IsIntegral .null
  | bool (b : Bool) : IsIntegral (.bool b)
  | number {n : Numeral} (integer : n.IsInteger) : IsIntegral (.number n)
  | string (pieces : List Piece) : IsIntegral (.string pieces)
  | array {elements : List Node} (each : ∀ node ∈ elements, IsIntegral node) :
      IsIntegral (.array elements)
  | object {members : List (List Piece × Node)} (each : ∀ member ∈ members, IsIntegral member.2) :
      IsIntegral (.object members)

theorem Number.isInteger_toNumeral {n : Int} (word : IsWord n) :
    (Number.integer n).toNumeral.IsInteger where
  fraction := rfl
  exponent := rfl
  range := by
    obtain ⟨above, below⟩ := word
    rw [Number.toNumeral, Text.Decimal.value_digits]
    by_cases sign : n < 0
    · exact .inr ⟨decide_eq_true sign, by omega, by omega⟩
    · exact .inl ⟨decide_eq_false sign, by omega⟩

theorem Node.isIntegral_ofNat {n : Nat} (small : n < 2 ^ 64) : (ofNat n).IsIntegral :=
  .number ⟨rfl, rfl, .inl ⟨rfl, (Text.Decimal.value_digits n).symm ▸ small⟩⟩

/-! ### Values -/

namespace Value

/-- A value of integers with the members of its objects in order, nested within a limit. -/
inductive IsKept : Nat → Value → Prop
  | null {depth : Nat} : IsKept depth .null
  | bool {depth : Nat} (b : Bool) : IsKept depth (.bool b)
  | number {depth : Nat} {n : Int} (word : Number.IsWord n) : IsKept depth (.number (.integer n))
  | string {depth : Nat} (text : String) : IsKept depth (.string text)
  | array {depth : Nat} {elements : List Value} (each : ∀ value ∈ elements, IsKept depth value) :
      IsKept (depth + 1) (.array elements)
  | object {depth : Nat} {members : List (String × Value)}
      (ordered : members.Pairwise fun a b => a.1 < b.1)
      (each : ∀ member ∈ members, IsKept depth member.2) : IsKept (depth + 1) (.object members)

/-- The value of a tree of integers. -/
theorem isKept_of_ofNode? {node : Node} (integral : node.IsIntegral) {depth : Nat} {value : Value}
    (read : ofNode? depth node = some value) : value.IsKept depth := by
  induction integral generalizing depth value with
  | null =>
    rw [ofNode?] at read
    obtain rfl := Option.some.inj read
    exact .null
  | bool b =>
    rw [ofNode?] at read
    obtain rfl := Option.some.inj read
    exact .bool b
  | number integer =>
    obtain ⟨n, same, word⟩ := integer.value?
    rw [ofNode?, same] at read
    obtain rfl := Option.some.inj read
    exact .number word
  | string pieces =>
    rw [ofNode?] at read
    obtain ⟨text, -, rfl⟩ := Option.map_eq_some_iff.1 read
    exact .string text
  | array each ih =>
    cases depth with
    | zero => cases read
    | succ depth =>
      obtain ⟨values, reads, rfl⟩ := Option.map_eq_some_iff.1 read
      refine .array fun value mem => ?_
      obtain ⟨node, among, own⟩ := mem_of_mapM reads mem
      exact ih node among own
  | object each ih =>
    cases depth with
    | zero => cases read
    | succ depth =>
      obtain ⟨values, reads, rfl⟩ := Option.map_eq_some_iff.1 read
      refine .object (pairwise_orderMembers values) fun member mem => ?_
      obtain ⟨⟨key, node⟩, among, whole⟩ := mem_of_mapM reads (mem_of_mem_orderMembers mem)
      obtain ⟨text, -, behind⟩ := Option.bind_eq_some_iff.1 whole
      obtain ⟨value, own, same⟩ := Option.bind_eq_some_iff.1 behind
      obtain rfl := Option.some.inj same
      exact ih (key, node) among own

theorem elementNodes_eq (values : List Value) : elementNodes values = values.map toNode := by
  induction values with
  | nil => rfl
  | cons value values ih => rw [elementNodes, ih, List.map_cons]

theorem memberNodes_eq (members : List (String × Value)) :
    memberNodes members = members.map fun member => (Piece.ofText member.1, member.2.toNode) := by
  induction members with
  | nil => rfl
  | cons member members ih =>
    obtain ⟨key, value⟩ := member
    rw [memberNodes, ih, List.map_cons]

theorem IsKept.ofNode?_toNode {depth : Nat} {value : Value} (kept : value.IsKept depth) :
    ofNode? depth value.toNode = some value := by
  induction kept with
  | null => simp [toNode, ofNode?]
  | bool b => simp [toNode, ofNode?]
  | number word => simp [toNode, ofNode?, Number.value?_toNumeral word]
  | string text => simp [toNode, ofNode?, Node.ofText, keyText?_ofText]
  | array each ih =>
    rw [toNode, elementNodes_eq, ofNode?, List.mapM_map]
    refine (congrArg (Option.map _) (mapM_of_each ih)).trans ?_
    rw [List.map_id', Option.map_some]
  | object ordered each ih =>
    rename_i depth members
    have reads : ∀ member ∈ members, (do
        return (← keyText? (Piece.ofText member.1), ← ofNode? depth member.2.toNode)) =
          some member := by
      intro member mem
      rw [keyText?_ofText, ih member mem]
      rfl
    rw [toNode, memberNodes_eq, ofNode?, List.mapM_map]
    refine (congrArg (Option.map _) (mapM_of_each reads)).trans ?_
    rw [List.map_id', Option.map_some, orderMembers_of_pairwise ordered]

theorem isProper_key (key : String) : ∀ piece ∈ Piece.ofText key, piece.IsProper := by
  intro piece mem
  obtain ⟨c, -, rfl⟩ := List.mem_map.1 mem
  trivial

theorem IsKept.isProper_toNode {depth : Nat} {value : Value} (kept : value.IsKept depth) :
    value.toNode.IsProper := by
  induction kept with
  | null => exact .null
  | bool b => exact .bool b
  | number => exact .number (Number.isProper_toNumeral _)
  | string text => exact Node.isProper_ofText text
  | array each ih =>
    rw [toNode, elementNodes_eq]
    refine .array fun node mem => ?_
    obtain ⟨value, among, rfl⟩ := List.mem_map.1 mem
    exact ih value among
  | object ordered each ih =>
    rw [toNode, memberNodes_eq]
    refine .object ?_ ?_
    · intro found mem
      obtain ⟨member, among, rfl⟩ := List.mem_map.1 mem
      exact isProper_key member.1
    · intro found mem
      obtain ⟨member, among, rfl⟩ := List.mem_map.1 mem
      exact ih member among

/-- What is written is a tree of integers again. -/
theorem IsKept.isIntegral_toNode {depth : Nat} {value : Value} (kept : value.IsKept depth) :
    value.toNode.IsIntegral := by
  induction kept with
  | null => exact .null
  | bool b => exact .bool b
  | number word => exact .number (Number.isInteger_toNumeral word)
  | string text => exact .string _
  | array each ih =>
    rw [toNode, elementNodes_eq]
    refine .array fun node mem => ?_
    obtain ⟨value, among, rfl⟩ := List.mem_map.1 mem
    exact ih value among
  | object ordered each ih =>
    rw [toNode, memberNodes_eq]
    refine .object fun found mem => ?_
    obtain ⟨member, among, rfl⟩ := List.mem_map.1 mem
    exact ih member among

end Value

end SealGate.Json
