import Mathlib.Data.Finset.Card
import Mathlib.Data.List.DropRight
import SealGate.Proofs.Reader.Recent

/-! The order of last use. A cache that forgets what was not used for longest holds the first names
of the order in which they were used last, as many as have room. How far back a name stands in that
order is the number of other names that were used since; so a name is in the cache if and only if
it was put there since everything was dropped, and fewer others than have room were used since it
was used itself. -/

namespace SealGate.Reader

/-- What is done with a cache. -/
inductive Use
  /-- A name is found in it. -/
  | found (name : String)
  /-- A name that was not in it is put there. -/
  | gained (name : String)
  /-- A name is not in it, and nothing can be put there. -/
  | missed (name : String)
  /-- No name is looked for. -/
  | unused
  /-- Everything is dropped. -/
  | cleared
  deriving DecidableEq

namespace Use

/-- The name that is used, be it found or gained. -/
def name? : Use → Option String
  | .found name | .gained name => some name
  | .missed _ | .unused | .cleared => none

/-- The order of last use behind one more use, the latest name first. -/
def reorder (order : List String) : Use → List String
  | .found name | .gained name => name :: order.filter (· ≠ name)
  | .missed _ | .unused => order
  | .cleared => []

end Use

/-- The names in the order of their last use since everything was dropped. -/
def recency (history : List Use) : List String := history.foldl Use.reorder []

/-- The name was gained since everything was dropped. -/
def IsGained (history : List Use) (name : String) : Prop :=
  .gained name ∈ history.rtakeWhile (· ≠ .cleared)

/-- The other names that were used since a name was used last. -/
def usedSince (history : List Use) (name : String) : Finset String :=
  ((history.rtakeWhile (·.name? ≠ some name)).filterMap Use.name?).toFinset

/-- The name was never gained since everything was dropped, or so many others were used since it was
used last that it had to make room. -/
def IsForgotten (capacity : Nat) (history : List Use) (name : String) : Prop :=
  ¬ IsGained history name ∨ capacity ≤ (usedSince history name).card

instance (history : List Use) (name : String) : Decidable (IsGained history name) :=
  inferInstanceAs (Decidable (_ ∈ _))

instance (capacity : Nat) (history : List Use) (name : String) :
    Decidable (IsForgotten capacity history name) :=
  inferInstanceAs (Decidable (_ ∨ _))

section Order

variable {history : List Use} {use : Use} {name : String}

theorem recency_concat (history : List Use) (use : Use) :
    recency (history ++ [use]) = use.reorder (recency history) :=
  List.foldl_concat Use.reorder [] use history

theorem reorder_of_name (order : List String) (used : use.name? = some name) :
    use.reorder order = name :: order.filter (· ≠ name) := by
  cases use <;> cases used <;> rfl

theorem reorder_of_unnamed (order : List String) (unused : use.name? = none)
    (kept : use ≠ .cleared) : use.reorder order = order := by
  cases use with
  | found name => cases unused
  | gained name => cases unused
  | missed name => rfl
  | unused => rfl
  | cleared => exact absurd rfl kept

theorem nodup_recency (history : List Use) : (recency history).Nodup := by
  induction history using List.reverseRecOn with
  | nil => exact List.nodup_nil
  | append_singleton history use ih =>
    have front (name : String) : (name :: (recency history).filter (· ≠ name)).Nodup :=
      List.nodup_cons.2 ⟨by simp, ih.filter _⟩
    rw [recency_concat]
    cases use with
    | found name => exact front name
    | gained name => exact front name
    | missed name => exact ih
    | unused => exact ih
    | cleared => exact List.nodup_nil

theorem mem_recency_concat : name ∈ recency (history ++ [use]) ↔
    use.name? = some name ∨ use ≠ .cleared ∧ name ∈ recency history := by
  rw [recency_concat]
  cases used : use.name? with
  | none =>
    by_cases cleared : use = .cleared
    · simp [cleared, Use.reorder]
    · simp [reorder_of_unnamed _ used cleared, cleared]
  | some other =>
    have kept : use ≠ .cleared := by
      rintro rfl
      cases used
    rw [reorder_of_name _ used]
    by_cases same : other = name
    · simp [same]
    · simp [same, Ne.symm same, kept]

theorem isGained_concat : IsGained (history ++ [use]) name ↔
    use = .gained name ∨ use ≠ .cleared ∧ IsGained history name := by
  rw [IsGained, List.rtakeWhile_concat]
  by_cases cleared : use = .cleared
  · simp [cleared]
  · simp [cleared, IsGained, eq_comm, or_comm]

/-- What was gained since everything was dropped has its place in the order. -/
theorem mem_recency_of_isGained (gained : IsGained history name) : name ∈ recency history := by
  induction history using List.reverseRecOn with
  | nil => cases gained
  | append_singleton history use ih =>
    rw [mem_recency_concat]
    rcases isGained_concat.1 gained with rfl | ⟨kept, before⟩
    · exact .inl rfl
    · exact .inr ⟨kept, ih before⟩

/-- The names before a name in the order are those that were used since. -/
theorem toFinset_takeWhile_recency (mem : name ∈ recency history) :
    ((recency history).takeWhile (· ≠ name)).toFinset = usedSince history name := by
  induction history using List.reverseRecOn with
  | nil => cases mem
  | append_singleton history use ih =>
    rw [usedSince, List.rtakeWhile_concat, recency_concat]
    by_cases own : use.name? = some name
    · simp [reorder_of_name _ own, own]
    obtain used | ⟨kept, before⟩ := mem_recency_concat.1 mem
    · exact absurd used own
    rw [if_pos (by simpa using own), List.filterMap_append, List.toFinset_append]
    have rest := ih before
    rw [usedSince] at rest
    rw [← rest]
    cases used : use.name? with
    | none =>
      rw [reorder_of_unnamed _ used kept]
      simp [used]
    | some other =>
      have apart : other ≠ name := fun same => own (same ▸ used)
      have front : ((recency history).filter (· ≠ other)).takeWhile (· ≠ name) =
          ((recency history).takeWhile (· ≠ name)).filter (· ≠ other) := by
        rw [List.takeWhile_filter]
        congr 2
        funext third
        by_cases third = other <;> simp_all
      rw [reorder_of_name _ used, List.takeWhile_cons_of_pos (by simpa using apart), front]
      ext third
      by_cases same : third = other <;> simp [same, used]

/-- A name stands among the first ones exactly if fewer others than these stand before it. -/
theorem mem_take_iff_takeWhile {order : List String} {count : Nat} :
    name ∈ order.take count ↔
      name ∈ order ∧ (order.takeWhile (· ≠ name)).length < count := by
  induction order generalizing count with
  | nil => simp
  | cons first order ih =>
    cases count with
    | zero => simp
    | succ count =>
      by_cases same : first = name
      · simp [same]
      · simp [same, Ne.symm same, ih]

/-- The first names of the order are those that are not forgotten, if all in it were gained. -/
theorem mem_take_recency_iff {capacity : Nat}
    (gained : ∀ name ∈ recency history, IsGained history name) :
    name ∈ (recency history).take capacity ↔ ¬ IsForgotten capacity history name := by
  rw [IsForgotten, not_or, not_not, not_le, mem_take_iff_takeWhile]
  constructor
  · rintro ⟨mem, near⟩
    rw [← toFinset_takeWhile_recency mem]
    exact ⟨gained name mem, (List.toFinset_card_le _).trans_lt near⟩
  · rintro ⟨known, few⟩
    have mem := mem_recency_of_isGained known
    have apart := (nodup_recency history).sublist (List.takeWhile_sublist (· ≠ name))
    rw [← toFinset_takeWhile_recency mem, List.toFinset_card_of_nodup apart] at few
    exact ⟨mem, few⟩

/-! ### Some uses among others -/

variable {more : List Use}

theorem isGained_append (gained : .gained name ∈ more) (kept : .cleared ∉ more) :
    IsGained (history ++ more) name := by
  induction more using List.reverseRecOn with
  | nil => cases gained
  | append_singleton more use ih =>
    rw [List.mem_append, not_or, List.mem_singleton] at kept
    rw [← List.append_assoc, isGained_concat]
    rcases List.mem_append.1 gained with before | last
    · exact .inr ⟨Ne.symm kept.2, ih before kept.1⟩
    · exact .inl (List.mem_singleton.1 last).symm

/-- Since a name was used no others were used than those that were used with it. -/
theorem usedSince_append (history : List Use) (used : name ∈ more.filterMap Use.name?) :
    usedSince (history ++ more) name ⊆ (more.filterMap Use.name?).toFinset.erase name := by
  induction more using List.reverseRecOn with
  | nil => cases used
  | append_singleton more use ih =>
    rw [← List.append_assoc, usedSince, List.rtakeWhile_concat]
    by_cases own : use.name? = some name
    · simp [own]
    have before : name ∈ more.filterMap Use.name? := by simpa [own] using used
    rw [if_pos (by simpa using own)]
    intro other mem
    rw [List.filterMap_append, List.toFinset_append, Finset.mem_union] at mem
    rw [List.filterMap_append, List.toFinset_append, Finset.erase_union_distrib, Finset.mem_union]
    rcases mem with earlier | last
    · exact .inl (ih before earlier)
    · refine .inr (Finset.mem_erase.2 ⟨?_, last⟩)
      rintro rfl
      exact own (by simpa using last)

/-- A name that was gained is not forgotten while no more names are used than have room. -/
theorem not_isForgotten_of_gained {capacity : Nat} (gained : .gained name ∈ more)
    (kept : .cleared ∉ more) (few : (more.filterMap Use.name?).toFinset.card ≤ capacity) :
    ¬ IsForgotten capacity (history ++ more) name := by
  have used : name ∈ more.filterMap Use.name? := List.mem_filterMap.2 ⟨_, gained, rfl⟩
  have since := Finset.card_le_card (usedSince_append history used)
  have fewer := Finset.card_erase_lt_of_mem (List.mem_toFinset.2 used)
  rw [IsForgotten, not_or, not_not, not_le]
  exact ⟨isGained_append gained kept, by omega⟩

end Order

/-! ### A cache in that order -/

/-- What is left of the first names without one of them reaches no further than what is left of
all. -/
theorem take_filter_take {order : List String} (apart : order.Nodup) (name : String) (count : Nat) :
    ((order.take (count + 1)).filter (· ≠ name)).take count =
      (order.filter (· ≠ name)).take count := by
  induction order generalizing count with
  | nil => rfl
  | cons first order ih =>
    obtain ⟨missing, apart⟩ := List.nodup_cons.1 apart
    by_cases same : first = name
    · subst same
      have whole {names : List String} (free : first ∉ names) :
          names.filter (· ≠ first) = names := by
        refine List.filter_eq_self.2 fun other mem => ?_
        rw [decide_eq_true_eq]
        rintro rfl
        exact free mem
      have front : first ∉ order.take count := fun mem => missing (List.mem_of_mem_take mem)
      rw [List.take_succ_cons, List.filter_cons_of_neg (by simp), List.filter_cons_of_neg (by simp),
        whole front, whole missing, List.take_take, Nat.min_self]
    · cases count with
      | zero => simp
      | succ count => simpa [List.take_succ_cons, same] using ih apart count

namespace Recent

variable {α : Type} {cache : Recent α} {history : List Use} {name : String} {value : α}

/-- The names in a cache, in their order. -/
def names (cache : Recent α) : List String := cache.entries.map Prod.fst

/-- A cache holds the names that were used last. -/
def Follows (cache : Recent α) (history : List Use) : Prop :=
  cache.names = (recency history).take cache.capacity

theorem map_others (cache : Recent α) (name : String) :
    (cache.others name).map Prod.fst = cache.names.filter (· ≠ name) := by
  rw [others, names, List.filter_map]
  rfl

theorem isSome_lookup?_iff : (cache.lookup? name).isSome ↔ name ∈ cache.names := by
  simp [lookup?, names, List.find?_isSome]

theorem names_get (held : cache.lookup? name = some value) :
    (cache.get name).2.names = name :: cache.names.filter (· ≠ name) := by
  rw [get, held, ← map_others]
  rfl

theorem names_put (cache : Recent α) (name : String) (value : α) :
    (cache.put name value).names =
      (name :: cache.names.filter (· ≠ name)).take cache.capacity := by
  rw [put, names, ← map_others, List.map_take, List.map_cons]

theorem capacity_get (cache : Recent α) (name : String) :
    (cache.get name).2.capacity = cache.capacity := by
  rw [get]
  cases cache.lookup? name <;> rfl

/-- Putting a name in front leaves the names that were used last. -/
theorem Follows.take_front (follows : cache.Follows history) (room : 0 < cache.capacity) :
    (name :: cache.names.filter (· ≠ name)).take cache.capacity =
      (name :: (recency history).filter (· ≠ name)).take cache.capacity := by
  obtain ⟨count, size⟩ := Nat.exists_eq_succ_of_ne_zero room.ne'
  rw [follows, size, List.take_succ_cons, List.take_succ_cons,
    take_filter_take (nodup_recency history)]

theorem Follows.put (follows : cache.Follows history) (room : 0 < cache.capacity) (name : String)
    (value : α) : (cache.put name value).Follows (history ++ [.gained name]) := by
  rw [Follows, names_put, follows.take_front room, recency_concat]
  rfl

theorem Follows.get (follows : cache.Follows history) (room : 0 < cache.capacity)
    (held : cache.lookup? name = some value) :
    (cache.get name).2.Follows (history ++ [.found name]) := by
  have mem : name ∈ cache.names := isSome_lookup?_iff.1 (by rw [held]; rfl)
  -- the name comes out of the cache before it is put in front, so nothing falls off the end
  have fits : (name :: cache.names.filter (· ≠ name)).length ≤ cache.capacity := by
    have fewer : (cache.names.filter (· ≠ name)).length < cache.names.length :=
      List.length_filter_lt_length_iff_exists.2 ⟨name, mem, by simp⟩
    have most : cache.names.length ≤ cache.capacity := by
      rw [follows]
      exact List.length_take_le _ _
    rw [List.length_cons]
    omega
  rw [Follows, names_get held, capacity_get, recency_concat, ← List.take_of_length_le fits,
    follows.take_front room]
  rfl

theorem Follows.clear (cache : Recent α) (history : List Use) :
    cache.clear.Follows (history ++ [.cleared]) := by
  rw [Follows, recency_concat]
  exact List.take_nil.symm

/-- What is neither a use nor a dropping leaves the order. -/
theorem Follows.idle (follows : cache.Follows history) {use : Use} (unused : use.name? = none)
    (kept : use ≠ .cleared) : cache.Follows (history ++ [use]) := by
  rw [Follows, recency_concat, reorder_of_unnamed _ unused kept]
  exact follows

/-- A cache whose names are those that were used last, and each was gained before it was found. -/
structure Mirrors (cache : Recent α) (history : List Use) : Prop where
  follows : cache.Follows history
  gained : ∀ name ∈ recency history, IsGained history name

namespace Mirrors

theorem withCapacity (capacity : Nat) : (withCapacity capacity : Recent α).Mirrors [] where
  follows := List.take_nil.symm
  gained := by
    intro name mem
    cases mem

/-- What names the cache holds is known from the history. -/
theorem isSome_lookup?_iff (mirrors : cache.Mirrors history) :
    (cache.lookup? name).isSome ↔ ¬ IsForgotten cache.capacity history name := by
  rw [Recent.isSome_lookup?_iff, mirrors.follows, mem_take_recency_iff mirrors.gained]

theorem gained_concat (mirrors : cache.Mirrors history) {use : Use}
    (known : ∀ other, use.name? = some other → IsGained (history ++ [use]) other) (other : String)
    (mem : other ∈ recency (history ++ [use])) : IsGained (history ++ [use]) other := by
  rcases mem_recency_concat.1 mem with used | ⟨kept, before⟩
  · exact known other used
  · exact isGained_concat.2 (.inr ⟨kept, mirrors.gained other before⟩)

theorem get (mirrors : cache.Mirrors history) (room : 0 < cache.capacity)
    (held : cache.lookup? name = some value) :
    (cache.get name).2.Mirrors (history ++ [.found name]) where
  follows := mirrors.follows.get room held
  gained := mirrors.gained_concat fun other used => by
    obtain rfl := Option.some.inj used
    have mem : name ∈ cache.names := Recent.isSome_lookup?_iff.1 (by rw [held]; rfl)
    rw [mirrors.follows] at mem
    exact isGained_concat.2 (.inr ⟨nofun, mirrors.gained name (List.mem_of_mem_take mem)⟩)

theorem put (mirrors : cache.Mirrors history) (room : 0 < cache.capacity) (name : String)
    (value : α) : (cache.put name value).Mirrors (history ++ [.gained name]) where
  follows := mirrors.follows.put room name value
  gained := mirrors.gained_concat fun other used => by
    obtain rfl := Option.some.inj used
    exact isGained_concat.2 (.inl rfl)

theorem idle (mirrors : cache.Mirrors history) {use : Use} (unused : use.name? = none)
    (kept : use ≠ .cleared) : cache.Mirrors (history ++ [use]) where
  follows := mirrors.follows.idle unused kept
  gained := mirrors.gained_concat fun other used => by
    rw [unused] at used
    cases used

theorem clear (cache : Recent α) (history : List Use) :
    cache.clear.Mirrors (history ++ [.cleared]) where
  follows := Follows.clear cache history
  gained := by
    intro name mem
    rw [recency_concat] at mem
    cases mem

end Mirrors

end Recent

end SealGate.Reader
