import SealGate.Json.Tagged
import SealGate.Proofs.Json.Records

/-! Fields and messages are read as they are written. A field that may be absent, and a list, are
read back if the values in them are; a tagged message gives its kind and the record of its fields,
since none of them has the name of the tag and all of them are values. -/

namespace SealGate.Json

section Fields

variable {α : Type} {read : Node → Option α} {write : α → Node}

@[simp] theorem required_some (read : Node → Option α) (node : Node) :
    required read (some node) = read node := rfl

@[simp] theorem defaulted_some (fallback : α) (read : Node → Option α) (node : Node) :
    defaulted fallback read (some node) = read node := rfl

/-- A field that is left out when it has no value is read back. -/
theorem optional_of_written (written : ∀ value, read (write value) = some value)
    (shown : ∀ value, write value ≠ .null) (value : Option α) :
    optional read (value.map write) = some value := by
  cases value with
  | none => rfl
  | some value =>
    rw [Option.map_some, optional]
    · rw [written]
      rfl
    · exact shown value

theorem list?_of_written (written : ∀ value, read (write value) = some value) (values : List α) :
    Node.list? read (.array (values.map write)) = some values := by
  rw [Node.list?, List.mapM_map]
  exact (mapM_of_each fun value _ => written value).trans (congrArg some (List.map_id' values))

end Fields

@[simp] theorem Node.hex?_ofHex (bytes : Bytes) : (Node.ofHex bytes).hex? = some bytes := by
  simp [Node.hex?, Node.ofHex]

@[simp] theorem optional_text (value : Option String) :
    optional Node.text? (value.map .ofText) = some value :=
  optional_of_written Node.text?_ofText (by intro text same; cases same) value

@[simp] theorem optional_hex (value : Option Bytes) :
    optional Node.hex? (value.map .ofHex) = some value :=
  optional_of_written Node.hex?_ofHex (by intro bytes same; cases same) value

@[simp] theorem optional_uint64 (value : Option UInt64) :
    optional Node.uint64? (value.map fun n => .ofNat n.toNat) = some value :=
  optional_of_written Node.uint64?_ofNat (by intro n same; cases same) value

@[simp] theorem optional_bool (value : Option Bool) :
    optional Node.bool? (value.map .bool) = some value :=
  optional_of_written Node.bool?_bool (by intro b same; cases same) value

@[simp] theorem optional_uint32 (value : Option UInt32) :
    optional Node.uint32? (value.map fun n => .ofNat n.toNat) = some value :=
  optional_of_written Node.uint32?_ofNat (by intro n same; cases same) value

/-- A record gives what its fields hold when it is asked for their names. -/
theorem fields?_of_names {fields : List (String × Option Node)} {names : List String}
    (own : fields.map Prod.fst = names) (distinct : names.Nodup) :
    (recordOf fields).fields? names = some (fields.map Prod.snd) := by
  subst own
  exact fields?_recordOf fields distinct

/-- A record of one field gives what it holds. -/
@[simp] theorem fields?_single (key : String) (value : Option Node) :
    (recordOf [(key, value)]).fields? [key] = some [value] :=
  fields?_of_names rfl (List.pairwise_singleton _ key)

/-! ### What can be spelled -/

theorem isProper_ofHex (bytes : Bytes) : (Node.ofHex bytes).IsProper := Node.isProper_ofText _

theorem isProper_list {α : Type} {write : α → Node} (proper : ∀ value, (write value).IsProper)
    (values : List α) : (Node.array (values.map write)).IsProper := by
  refine .array fun node mem => ?_
  obtain ⟨value, -, rfl⟩ := List.mem_map.1 mem
  exact proper value

/-- The value of a field, if it has one, can be spelled. -/
def IsSpelled (value : Option Node) : Prop := ∀ node, value = some node → node.IsProper

@[simp] theorem isSpelled_some {node : Node} : IsSpelled (some node) ↔ node.IsProper := by
  simp [IsSpelled]

theorem isSpelled_map {α : Type} {write : α → Node} (proper : ∀ value, (write value).IsProper)
    (value : Option α) : IsSpelled (value.map write) := by
  intro node same
  obtain ⟨value, -, rfl⟩ := Option.map_eq_some_iff.1 same
  exact proper value

theorem isProper_of_spelled {fields : List (String × Option Node)}
    (spelled : ∀ field ∈ fields, IsSpelled field.2) : (recordOf fields).IsProper :=
  isProper_recordOf fun _ node mem => spelled _ mem node rfl

/-! ### Tagged messages -/

@[simp] theorem isSome_ofNode?_bool (depth : Nat) (b : Bool) :
    (Value.ofNode? depth (.bool b)).isSome := by simp [Value.ofNode?]

@[simp] theorem isSome_ofNode?_ofText (depth : Nat) (text : String) :
    (Value.ofNode? depth (.ofText text)).isSome := by
  simp [Value.ofNode?, Node.ofText, keyText?_ofText]

@[simp] theorem isSome_ofNode?_ofHex (depth : Nat) (bytes : Bytes) :
    (Value.ofNode? depth (.ofHex bytes)).isSome := isSome_ofNode?_ofText depth _

section Tagged

variable {fields : List (String × Option Node)} {tag kind : String}

/-- A field as a member of an object. -/
def spelled (field : String × Node) : List Piece × Node := (Piece.ofText field.1, field.2)

theorem flatten_memberIf (fields : List (String × Option Node)) :
    (fields.map fun field => memberIf field.1 field.2).flatten =
      (present fields).map spelled := by
  induction fields with
  | nil => rfl
  | cons field fields ih =>
    obtain ⟨key, value⟩ := field
    cases value with
    | none => exact ih
    | some node => exact congrArg ((Piece.ofText key, node) :: ·) ih

theorem key_of_mem_present {field : String × Node} (mem : field ∈ present fields) :
    field.1 ∈ fields.map Prod.fst := by
  obtain ⟨own, held, same⟩ := List.mem_filterMap.1 mem
  obtain ⟨node, -, rfl⟩ := Option.map_eq_some_iff.1 same
  exact List.mem_map_of_mem held

/-- A message is told apart into its kind and its fields. -/
theorem tagged?_message (untagged : tag ∉ fields.map Prod.fst)
    (values : ∀ field ∈ present fields, (Value.ofNode? (depthLimit - 1) field.2).isSome) :
    (Node.message tag kind (fields.map fun field => memberIf field.1 field.2)).tagged? tag =
      some (kind, recordOf fields) := by
  have whole : Node.message tag kind (fields.map fun field => memberIf field.1 field.2) =
      .object (((tag, Node.ofText kind) :: present fields).map spelled) := by
    rw [List.map_cons, ← flatten_memberIf]
    rfl
  have named : named? (((tag, Node.ofText kind) :: present fields).map spelled) =
      some ((tag, Node.ofText kind) :: present fields) := by
    have given := named?_recordOf ((tag, some (Node.ofText kind)) :: fields)
    rw [flatten_memberIf] at given
    exact given
  have kinds : membersOf ((tag, Node.ofText kind) :: present fields) tag = [Node.ofText kind] := by
    have none := membersOf_eq_nil untagged
    rw [membersOf] at none ⊢
    rw [List.filter_cons_of_pos (by simp), List.map_cons, none]
  have others : ∀ field ∈ present fields, field.1 ≠ tag := by
    rintro field mem rfl
    exact untagged (key_of_mem_present mem)
  have pairs : ((((tag, Node.ofText kind) :: present fields).map spelled).zip
      ((tag, Node.ofText kind) :: present fields)).filter (fun pair => pair.2.1 ≠ tag) =
        (present fields).map fun field => (spelled field, field) := by
    have both : ((present fields).map spelled).zip (present fields) =
        (present fields).map fun field => (spelled field, field) := by
      have mapped : ((present fields).map spelled).zip ((present fields).map id) = _ :=
        List.zip_map'
      rwa [List.map_id] at mapped
    rw [List.map_cons, List.zip_cons_cons, both, List.filter_cons_of_neg (by simp)]
    refine List.filter_eq_self.2 ?_
    intro pair mem
    obtain ⟨field, held, rfl⟩ := List.mem_map.1 mem
    simpa using others field held
  rw [whole, Node.tagged?, named]
  simp only [Option.bind_eq_bind, Option.bind_some, pairs, kinds]
  rw [if_pos]
  · rw [Node.text?_ofText, Option.bind_some, recordOf, record, flatten_memberIf, List.map_map]
    rfl
  · refine List.all_eq_true.2 ?_
    intro pair mem
    obtain ⟨field, held, rfl⟩ := List.mem_map.1 mem
    exact values field held

end Tagged

end SealGate.Json
