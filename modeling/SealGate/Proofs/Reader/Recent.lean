import SealGate.Reader.Recent

/-! What a cache holds. Looking an entry up changes no answer; putting one in answers for its key
from then on, and of the other entries it can only lose some. In any list of entries the first one
with a key counts. -/

namespace SealGate

namespace Entries

variable {α : Type} {key other : String}

/-- An entry is found where it was if those with another key are dropped and one is put in front. -/
theorem find?_replaced (entries : List (String × α)) (value : α) (different : other ≠ key) :
    ((key, value) :: entries.filter fun entry => entry.1 ≠ key).find?
        (fun entry => entry.1 = other) = entries.find? fun entry => entry.1 = other := by
  rw [List.find?_cons_of_neg (by simpa using Ne.symm different), List.find?_filter]
  congr 1
  funext entry
  by_cases same : entry.1 = other
  · simp [same, different]
  · simp [same]

end Entries

namespace Reader.Recent

variable {α : Type} (cache : Recent α) {key other : String} {value found : α}

theorem lookup?_eq_some (h : cache.lookup? key = some value) :
    cache.entries.find? (fun entry => entry.1 = key) = some (key, value) := by
  obtain ⟨⟨name, held⟩, first, rfl⟩ := Option.map_eq_some_iff.1 h
  have same : name = key := by simpa using List.find?_some first
  rw [first, same]

theorem get_fst (key : String) : (cache.get key).1 = cache.lookup? key := by
  rw [get]
  cases cache.lookup? key <;> rfl

/-- A lookup changes no answer. -/
theorem lookup?_get (key other : String) :
    (cache.get key).2.lookup? other = cache.lookup? other := by
  rw [get]
  cases held : cache.lookup? key with
  | none => rfl
  | some value =>
    by_cases same : other = key
    · rw [same, held]
      simp [lookup?]
    · exact congrArg (Option.map Prod.snd) (Entries.find?_replaced cache.entries value same)

/-- What is found after an entry was put in is that entry, or was there before under another key. -/
theorem lookup?_of_put (h : (cache.put key value).lookup? other = some found) :
    other = key ∧ found = value ∨ other ≠ key ∧ cache.lookup? other = some found := by
  have first := (cache.put key value).lookup?_eq_some h
  have whole := (List.take_prefix _ _).find?_eq_some first
  by_cases same : other = key
  · left
    rw [List.find?_cons_of_pos (by simpa using same.symm)] at whole
    exact ⟨same, (Prod.mk.inj (Option.some.inj whole)).2.symm⟩
  · right
    rw [others, Entries.find?_replaced cache.entries value same] at whole
    rw [lookup?, whole]
    exact ⟨same, rfl⟩

/-! ### The entries -/

variable {entry : String × α}

/-- Looking an entry up adds none. -/
theorem mem_of_mem_get (mem : entry ∈ (cache.get key).2.entries) : entry ∈ cache.entries := by
  rw [get] at mem
  cases held : cache.lookup? key with
  | none =>
    rw [held] at mem
    exact mem
  | some value =>
    rw [held] at mem
    rcases List.mem_cons.1 mem with rfl | behind
    · exact List.mem_of_find?_eq_some (cache.lookup?_eq_some held)
    · exact (List.mem_filter.1 behind).1

/-- Putting an entry in adds no other. -/
theorem mem_of_mem_put (mem : entry ∈ (cache.put key value).entries) :
    entry = (key, value) ∨ entry ∈ cache.entries := by
  rcases List.mem_cons.1 (List.mem_of_mem_take mem) with new | behind
  · exact .inl new
  · exact .inr (List.mem_filter.1 behind).1

end Reader.Recent

end SealGate
