import SealGate.Http.Body

/-! What a run of items delivers: everything before the first failure, and that failure. A body that
can be collected delivers what was collected and does not fail. -/

namespace SealGate.Http

variable {ε δ α : Type}

/-- What comes before the first failure, and that failure. -/
def untilError : List (Except ε α) → List α × Option ε
  | [] => ([], none)
  | .error error :: _ => ([], some error)
  | .ok item :: rest => (item :: (untilError rest).1, (untilError rest).2)

/-- A run of items, with a failure behind them if there is one. -/
def itemsThen (items : List α) (fault : Option ε) : List (Except ε α) :=
  items.map .ok ++ fault.toList.map .error

theorem untilError_append (items : List α) (rest : List (Except ε α)) :
    untilError (items.map .ok ++ rest) =
      (items ++ (untilError rest).1, (untilError rest).2) := by
  induction items with
  | nil => rfl
  | cons item items ih => simp only [List.map_cons, List.cons_append, untilError, ih]

@[simp] theorem untilError_itemsThen (items : List α) (fault : Option ε) :
    untilError (itemsThen items fault) = (items, fault) := by
  rw [itemsThen, untilError_append]
  cases fault <;> simp [untilError]

theorem ok_mem_itemsThen {items : List α} {fault : Option ε} {item : α} :
    .ok item ∈ itemsThen items fault ↔ item ∈ items := by
  cases fault <;> simp [itemsThen]

/-- The bytes before the first failure put together, and that failure. -/
def delivered (items : List (Except ε Bytes)) : Bytes × Option ε :=
  ((untilError items).1.flatten, (untilError items).2)

@[simp] theorem delivered_itemsThen (items : List Bytes) (fault : Option ε) :
    delivered (itemsThen items fault) = (items.flatten, fault) := by
  rw [delivered, untilError_itemsThen]

/-- All bytes among the items put together, also those behind a failure. -/
def emitted (items : List (Except ε Bytes)) : Bytes := (items.filterMap Except.toOption).flatten

@[simp] theorem emitted_itemsThen (items : List Bytes) (fault : Option ε) :
    emitted (itemsThen items fault) = items.flatten := by
  have all : (items.map (Except.ok (ε := ε))).filterMap Except.toOption = items := by
    rw [List.filterMap_map]
    exact List.filterMap_some
  rw [emitted, itemsThen, List.filterMap_append, all]
  cases fault <;> simp [Except.toOption]

theorem error_mem_itemsThen {items : List α} {fault : Option ε} {error : ε} :
    .error error ∈ itemsThen items fault ↔ fault = some error := by
  cases fault <;> simp [itemsThen, eq_comm]

theorem delivered_ok_cons (chunk : Bytes) (rest : List (Except ε Bytes)) :
    delivered (.ok chunk :: rest) = (chunk ++ (delivered rest).1, (delivered rest).2) := rfl

theorem delivered_append {items rest : List (Except ε Bytes)} (clean : (delivered items).2 = none) :
    delivered (items ++ rest) =
      ((delivered items).1 ++ (delivered rest).1, (delivered rest).2) := by
  induction items with
  | nil => rfl
  | cons item items ih =>
    cases item with
    | error error => cases clean
    | ok chunk =>
      rw [List.cons_append, delivered_ok_cons, delivered_ok_cons, ih clean, List.append_assoc]

namespace Body

theorem join_ok_cons {chunk bytes : Bytes} {rest : List (Except ε Bytes)} :
    join (.ok chunk :: rest) = .ok bytes ↔
      ∃ behind, join rest = .ok behind ∧ chunk ++ behind = bytes := by
  cases h : join rest <;> simp [join, h, Except.map]

theorem delivered_of_join {items : List (Except ε Bytes)} {bytes : Bytes}
    (h : join items = .ok bytes) : delivered items = (bytes, none) := by
  induction items generalizing bytes with
  | nil => rw [← Except.ok.inj h]; rfl
  | cons item items ih =>
    cases item with
    | error error => cases h
    | ok chunk =>
      obtain ⟨behind, rest, rfl⟩ := join_ok_cons.1 h
      rw [delivered_ok_cons, ih rest]

theorem delivered_items {body : Body ε} {bytes : Bytes} (h : body.collect = .ok bytes) :
    delivered body.items = (bytes, none) := by
  cases body with
  | streamed items => exact delivered_of_join h
  | buffered held =>
    have all : held.getD [] = bytes := Except.ok.inj h
    simp only [items, all]
    split
    · rename_i none
      rw [none]
      rfl
    · simp [delivered, untilError]

/-- The chunks that are handed out make up what is collected. -/
theorem join_items (body : Body ε) : join body.items = body.collect := by
  cases body with
  | streamed items => rfl
  | buffered held =>
    simp only [items, collect]
    split
    · rename_i none
      rw [none]
      rfl
    · exact congrArg Except.ok (List.append_nil _)

theorem join_map_mapError (change : ε → δ) (items : List (Except ε Bytes)) :
    join (items.map (·.mapError change)) = (join items).mapError change := by
  induction items with
  | nil => rfl
  | cons item items ih =>
    cases item with
    | error error => rfl
    | ok chunk =>
      show Except.map (chunk ++ ·) (join (items.map (·.mapError change))) = _
      rw [ih, join]
      cases join items <;> rfl

/-- Errors may be changed before or after a body is collected. -/
theorem collect_mapError (change : ε → δ) (body : Body ε) :
    (body.mapError change).collect = body.collect.mapError change := by
  cases body with
  | buffered held => rfl
  | streamed items => exact join_map_mapError change items

end Body

end SealGate.Http
