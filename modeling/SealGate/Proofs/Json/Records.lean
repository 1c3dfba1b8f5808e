import SealGate.Json.Record
import SealGate.Proofs.Json.RoundTrip

/-! Records are read as they are written. A record that is written from its fields, those without a
value left out, gives each of them back when it is asked for all their names, in the order of the
names; so a record of proper values can be written as a text and read again. -/

namespace SealGate.Json

theorem mapM_of_each {α β : Type} {list : List α} {read : α → Option β} {value : α → β}
    (each : ∀ a ∈ list, read a = some (value a)) : list.mapM read = some (list.map value) := by
  induction list with
  | nil => rfl
  | cons a list ih =>
    rw [List.mapM_cons, each a (by simp), ih fun b mem => each b (by simp [mem])]
    rfl

/-- The record with the given fields. -/
def recordOf (fields : List (String × Option Node)) : Node :=
  record (fields.map fun field => memberIf field.1 field.2)

/-- The fields that have a value. -/
def present (fields : List (String × Option Node)) : List (String × Node) :=
  fields.filterMap fun field => field.2.map (field.1, ·)

theorem keyText?_ofText (text : String) : keyText? (Piece.ofText text) = some text := by
  rw [keyText?, Piece.ofText, Piece.chars?_map_char, Option.map_some, String.ofList_toList]

theorem named?_recordOf (fields : List (String × Option Node)) :
    named? (fields.map fun field => memberIf field.1 field.2).flatten = some (present fields) := by
  induction fields with
  | nil => rfl
  | cons field fields ih =>
    obtain ⟨key, value⟩ := field
    rw [named?] at ih ⊢
    cases value with
    | none => exact ih
    | some node =>
      show List.mapM _ ((Piece.ofText key, node) ::
        (fields.map fun field => memberIf field.1 field.2).flatten) = _
      rw [List.mapM_cons, ih, keyText?_ofText]
      rfl

theorem membersOf_eq_nil {fields : List (String × Option Node)} {key : String}
    (absent : key ∉ fields.map Prod.fst) : membersOf (present fields) key = [] := by
  rw [membersOf, List.filter_eq_nil_iff.2, List.map_nil]
  intro member mem
  obtain ⟨field, held, same⟩ := List.mem_filterMap.1 mem
  obtain ⟨node, -, rfl⟩ := Option.map_eq_some_iff.1 same
  simp only [decide_eq_true_eq]
  rintro rfl
  exact absent (List.mem_map_of_mem held)

theorem membersOf_present {fields : List (String × Option Node)}
    (distinct : (fields.map Prod.fst).Nodup) {key : String} {value : Option Node}
    (mem : (key, value) ∈ fields) : membersOf (present fields) key = value.toList := by
  induction fields with
  | nil => cases mem
  | cons field fields ih =>
    obtain ⟨other, held⟩ := field
    obtain ⟨absent, rest⟩ := List.nodup_cons.1 distinct
    rcases List.mem_cons.1 mem with same | mem
    · obtain ⟨rfl, rfl⟩ := Prod.mk.inj same
      have none := membersOf_eq_nil absent
      rw [membersOf] at none ⊢
      cases value with
      | none => exact none
      | some node =>
        show List.map _ (List.filter _ ((key, node) :: present fields)) = _
        rw [List.filter_cons_of_pos (by simp), List.map_cons, none]
        rfl
    · have different : other ≠ key := by
        rintro rfl
        exact absent (List.mem_map.2 ⟨_, mem, rfl⟩)
      rw [← ih rest mem, membersOf, membersOf]
      cases held with
      | none => rfl
      | some node =>
        show List.map _ (List.filter _ ((other, node) :: present fields)) = _
        rw [List.filter_cons_of_neg (by simpa using different)]

/-- Every field of a record is found under its name. -/
theorem fields?_recordOf (fields : List (String × Option Node))
    (distinct : (fields.map Prod.fst).Nodup) :
    (recordOf fields).fields? (fields.map Prod.fst) = some (fields.map Prod.snd) := by
  have each : ∀ field ∈ fields, field? (present fields) field.1 = some field.2 := by
    rintro ⟨key, value⟩ mem
    rw [field?, membersOf_present distinct mem]
    cases value <;> rfl
  rw [recordOf, record, Node.fields?, named?_recordOf, Option.bind_some, List.mapM_map]
  exact mapM_of_each each

/-- A field that is left out when it has its fallback value is read back with it. -/
theorem defaulted_of_written {α : Type} {fallback value : α} [Decidable (value = fallback)]
    {read : Node → Option α} {node : Node} (written : read node = some value) :
    defaulted fallback read (if value = fallback then none else some node) = some value := by
  split
  · rename_i same
    rw [same]
    rfl
  · exact written

theorem isProper_recordOf {fields : List (String × Option Node)}
    (proper : ∀ key node, (key, some node) ∈ fields → node.IsProper) :
    (recordOf fields).IsProper := by
  have member : ∀ found ∈ (fields.map fun field => memberIf field.1 field.2).flatten,
      ∃ key node, (key, some node) ∈ fields ∧ found = (Piece.ofText key, node) := by
    intro found mem
    obtain ⟨members, held, mem⟩ := List.mem_flatten.1 mem
    obtain ⟨⟨key, value⟩, field, rfl⟩ := List.mem_map.1 held
    cases value with
    | none => cases mem
    | some node => exact ⟨key, node, field, List.mem_singleton.1 mem⟩
  refine .object ?_ ?_
  · intro found mem piece spelled
    obtain ⟨key, node, -, rfl⟩ := member found mem
    obtain ⟨c, -, rfl⟩ := List.mem_map.1 spelled
    trivial
  · intro found mem
    obtain ⟨key, node, field, rfl⟩ := member found mem
    exact proper key node field

end SealGate.Json
