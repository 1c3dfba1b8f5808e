import Mathlib.Data.Finset.Card
import SealGate.Proofs.Bytes.Text
import SealGate.Proofs.Vault.Catalog

/-! Looking entries up in a catalog. Halving finds what a search from the front would find, since
the paths are in strict order. Sorting keeps entries with one path in their order and the first of
them stays, so that a catalog answers for every path as the given entries do, read from the front.
By file id it gives the last of its entries, which is the one with the greatest path. -/

namespace SealGate.Vault

/-! ### Halving -/

variable {entries : List Entry} {path : String}

theorem find?_path_eq_none (absent : ∀ entry ∈ entries, entry.path ≠ path) :
    (entries.find? fun entry => entry.path = path) = none :=
  List.find?_eq_none.2 fun entry mem => by simpa using absent entry mem

/-- On paths in strict order, an entry tells on which side of it a path is found. -/
theorem find?_path_append_cons {lower behind : List Entry} {middle : Entry}
    (strict : (lower ++ middle :: behind).Pairwise fun a b => a.path < b.path) :
    ((lower ++ middle :: behind).find? fun entry => entry.path = path) =
      if path < middle.path then lower.find? fun entry => entry.path = path
      else if middle.path = path then some middle
      else behind.find? fun entry => entry.path = path := by
  obtain ⟨-, upper, before⟩ := List.pairwise_append.1 strict
  obtain ⟨after, -⟩ := List.pairwise_cons.1 upper
  rw [List.find?_append]
  split
  next below =>
    have outside : ∀ entry ∈ middle :: behind, entry.path ≠ path := by
      intro entry mem
      rcases List.mem_cons.1 mem with rfl | mem
      · exact below.ne'
      · exact (below.trans (after entry mem)).ne'
    rw [find?_path_eq_none outside, Option.or_none]
  next above =>
    have outside : ∀ entry ∈ lower, entry.path ≠ path := fun entry mem =>
      ((before entry mem middle List.mem_cons_self).trans_le (not_lt.1 above)).ne
    rw [find?_path_eq_none outside, Option.none_or]
    split
    next same => exact List.find?_cons_of_pos (by simpa using same)
    next other => exact List.find?_cons_of_neg (by simpa using other)

theorem take_half_append {middle : Entry} {behind : List Entry}
    (split : entries.drop (entries.length / 2) = middle :: behind) :
    entries.take (entries.length / 2) ++ middle :: behind = entries := by
  rw [← split, List.take_append_drop]

/-- On paths in strict order, halving finds what a search from the front finds. -/
theorem search?_eq_find? (strict : entries.Pairwise fun a b => a.path < b.path) :
    search? path entries = entries.find? fun entry => entry.path = path := by
  fun_induction search? path entries with
  | case1 entries split =>
    have short := List.drop_eq_nil_iff.1 split
    obtain rfl : entries = [] := List.eq_nil_of_length_eq_zero (by omega)
    rfl
  | case2 entries middle behind split below ih =>
    rw [← take_half_append split] at strict
    rw [ih (List.pairwise_append.1 strict).1]
    conv_rhs => rw [← take_half_append split, find?_path_append_cons strict, if_pos below]
  | case3 entries middle behind split above same =>
    rw [← take_half_append split] at strict
    conv_rhs =>
      rw [← take_half_append split, find?_path_append_cons strict, if_neg above, if_pos same]
  | case4 entries middle behind split above other ih =>
    rw [← take_half_append split] at strict
    rw [ih (List.pairwise_cons.1 (List.pairwise_append.1 strict).2.1).2]
    conv_rhs =>
      rw [← take_half_append split, find?_path_append_cons strict, if_neg above, if_neg other]

/-! ### The first entry with a path -/

/-- Entries with one path stay in their order. -/
theorem find?_sortByPath :
    ((sortByPath entries).find? fun entry => entry.path = path) =
      entries.find? fun entry => entry.path = path := by
  have alike : (entries.filter fun entry => entry.path = path).Pairwise
      fun a b => decide (a.path ≤ b.path) = true := by
    refine List.pairwise_of_forall_mem_list fun one mem other mem' => ?_
    have one_path := (List.mem_filter.1 mem).2
    have other_path := (List.mem_filter.1 mem').2
    simp only [decide_eq_true_eq] at one_path other_path ⊢
    exact (one_path.trans other_path.symm).le
  have kept : (entries.filter fun entry => entry.path = path).Sublist (sortByPath entries) := by
    refine List.sublist_mergeSort ?_ ?_ alike List.filter_sublist
    · simpa using fun a b c : Entry => le_trans
    · simp [le_total]
  have same : ((sortByPath entries).filter fun entry => entry.path = path) =
      entries.filter fun entry => entry.path = path := by
    have narrowed := kept.filter fun entry => entry.path = path
    rw [List.filter_filter] at narrowed
    simp only [Bool.and_self] at narrowed
    refine (narrowed.eq_of_length ?_).symm
    exact ((List.mergeSort_perm entries _).filter _).length_eq.symm
  rw [← List.head?_filter, same, List.head?_filter]

theorem find?_dropRepeated :
    ((dropRepeated entries).find? fun entry => entry.path = path) =
      entries.find? fun entry => entry.path = path := by
  induction entries with
  | nil => rfl
  | cons entry rest ih =>
    rw [dropRepeated]
    by_cases found : entry.path = path
    · rw [List.find?_cons_of_pos (by simpa using found)]
      split
      · rw [List.find?_cons_of_pos (by simpa using found)]
      · split <;> rw [List.find?_cons_of_pos (by simpa using found)]
    · rw [List.find?_cons_of_neg (by simpa using found), ← ih]
      split
      next kept => rw [kept, List.find?_cons_of_neg (by simpa using found)]
      next next behind kept =>
        rw [kept]
        split
        next same =>
          rw [List.find?_cons_of_neg (by simpa using found),
            List.find?_cons_of_neg (by simpa [← same] using found)]
        next => rw [List.find?_cons_of_neg (by simpa using found)]

/-- Entries with their paths made absolute. -/
def madeAbsolute (entries : List Entry) : List Entry :=
  entries.map fun given => { given with path := absolute given.path }

/-- A given entry with its path made absolute, if no entry before it has that path. -/
def IsFirst (entries : List Entry) (entry : Entry) : Prop :=
  ∃ before given behind, entries = before ++ given :: behind ∧
    entry = { given with path := absolute given.path } ∧
      ∀ other ∈ before, absolute other.path ≠ entry.path

theorem isFirst_iff {entry : Entry} :
    IsFirst entries entry ↔
      ((madeAbsolute entries).find? fun other => other.path = entry.path) = some entry := by
  rw [madeAbsolute, List.find?_eq_some_iff_append]
  constructor
  · rintro ⟨before, given, behind, rfl, rfl, first⟩
    refine ⟨by simp, _, _, List.map_append.trans (by rw [List.map_cons]), ?_⟩
    simpa using first
  · rintro ⟨-, before', behind', split, first⟩
    obtain ⟨before, rest, rfl, rfl, rest_eq⟩ := List.map_eq_append_iff.1 split
    obtain ⟨given, behind, rfl, rfl, -⟩ := List.map_eq_cons_iff.1 rest_eq
    exact ⟨before, given, behind, rfl, rfl, by simpa using first⟩

namespace Catalog

theorem find?_ofEntries :
    ((ofEntries entries).files.find? fun entry => entry.path = path) =
      (madeAbsolute entries).find? fun entry => entry.path = path :=
  find?_dropRepeated.trans find?_sortByPath

theorem byPath?_ofEntries :
    (ofEntries entries).byPath? path =
      (madeAbsolute entries).find? fun entry => entry.path = path :=
  (search?_eq_find? (pairwise_ofEntries entries)).trans find?_ofEntries

/-! ### By path and by file id -/

variable {catalog : Catalog} {entry : Entry} {fileId : String}

theorem byPath?_eq_some_iff (strict : catalog.files.Pairwise fun a b => a.path < b.path) :
    catalog.byPath? path = some entry ↔ entry ∈ catalog.files ∧ entry.path = path := by
  rw [byPath?, search?_eq_find? strict]
  constructor
  · intro found
    exact ⟨List.mem_of_find?_eq_some found, by simpa using List.find?_some found⟩
  · rintro ⟨held, rfl⟩
    obtain ⟨before, behind, split⟩ := List.append_of_mem held
    rw [split] at strict
    obtain ⟨-, -, lower⟩ := List.pairwise_append.1 strict
    refine List.find?_eq_some_iff_append.2 ⟨by simp, before, behind, split, ?_⟩
    intro other mem
    simpa using (lower other mem entry List.mem_cons_self).ne

theorem byId?_eq_none_iff :
    catalog.byId? fileId = none ↔ ∀ entry ∈ catalog.files, entry.fileId ≠ some fileId := by
  simp [byId?]

/-- By file id a catalog gives, of the entries that have it, the one with the greatest path. -/
theorem byId?_eq_some_iff (strict : catalog.files.Pairwise fun a b => a.path < b.path) :
    catalog.byId? fileId = some entry ↔
      entry ∈ catalog.files ∧ entry.fileId = some fileId ∧
        ∀ other ∈ catalog.files, other.fileId = some fileId →
          other = entry ∨ other.path < entry.path := by
  have greatest : ∀ found, catalog.byId? fileId = some found →
      found ∈ catalog.files ∧ found.fileId = some fileId ∧
        ∀ other ∈ catalog.files, other.fileId = some fileId →
          other = found ∨ other.path < found.path := by
    intro found last
    obtain ⟨named, behind, before, split, unnamed⟩ := List.find?_eq_some_iff_append.1 last
    have files : catalog.files = before.reverse ++ found :: behind.reverse := by
      rw [← List.reverse_reverse catalog.files, split]
      simp
    rw [files] at strict
    obtain ⟨-, -, lower⟩ := List.pairwise_append.1 strict
    refine ⟨by simp [files], by simpa using named, fun other mem same => ?_⟩
    rw [files] at mem
    rcases List.mem_append.1 mem with mem | mem
    · exact .inr (lower other mem found List.mem_cons_self)
    · rcases List.mem_cons.1 mem with rfl | mem
      · exact .inl rfl
      · exact absurd same (by simpa using unnamed other (List.mem_reverse.1 mem))
  refine ⟨greatest entry, ?_⟩
  rintro ⟨held, named, highest⟩
  cases last : catalog.byId? fileId with
  | none => exact absurd named (byId?_eq_none_iff.1 last entry held)
  | some found =>
    obtain ⟨found_held, found_named, above⟩ := greatest found last
    rcases above entry held named with rfl | below
    · rfl
    · rcases highest found found_held found_named with rfl | below'
      · rfl
      · exact absurd below' below.asymm

theorem mem_ofEntries : entry ∈ (ofEntries entries).files ↔ IsFirst entries entry := by
  rw [isFirst_iff, ← byPath?_ofEntries, byPath?_eq_some_iff (pairwise_ofEntries entries)]
  simp

theorem mem_paths_ofEntries :
    path ∈ (ofEntries entries).files.map Entry.path ↔
      path ∈ entries.map fun given => absolute given.path := by
  have same : ((ofEntries entries).files.find? fun entry => entry.path = path).isSome =
      ((madeAbsolute entries).find? fun entry => entry.path = path).isSome := by
    rw [find?_ofEntries]
  rw [Bool.eq_iff_iff, List.find?_isSome, List.find?_isSome] at same
  simpa [madeAbsolute] using same

/-- The catalog of some entries: which of them it keeps, in which order, and what it gives for
each path and for each file id. -/
structure IsCatalogOf (catalog : Catalog) (entries : List Entry) : Prop where
  ordered : catalog.files.Pairwise fun a b => Bytes.ofText a.path < Bytes.ofText b.path
  first : ∀ entry, entry ∈ catalog.files ↔ IsFirst entries entry
  size : catalog.size = (entries.map fun given => absolute given.path).toFinset.card
  byPath : ∀ path entry, catalog.byPath? path = some entry ↔
    IsFirst entries entry ∧ entry.path = path
  noPath : ∀ path, catalog.byPath? path = none ↔ ∀ given ∈ entries, absolute given.path ≠ path
  byId : ∀ fileId entry, catalog.byId? fileId = some entry ↔
    entry ∈ catalog.files ∧ entry.fileId = some fileId ∧
      ∀ other ∈ catalog.files, other.fileId = some fileId →
        other = entry ∨ Bytes.ofText other.path < Bytes.ofText entry.path
  noId : ∀ fileId, catalog.byId? fileId = none ↔
    ∀ entry ∈ catalog.files, entry.fileId ≠ some fileId
  agree : ∀ fileId entry, catalog.byId? fileId = some entry →
    catalog.byPath? entry.path = some entry

theorem size_ofEntries (entries : List Entry) :
    (ofEntries entries).size = (entries.map fun given => absolute given.path).toFinset.card := by
  have paths : ((ofEntries entries).files.map Entry.path).toFinset =
      (entries.map fun given => absolute given.path).toFinset := by
    ext path
    rw [List.mem_toFinset, List.mem_toFinset, mem_paths_ofEntries]
  rw [← paths, List.toFinset_card_of_nodup (nodup_paths_ofEntries entries), List.length_map, size]

/-- A catalog keeps the first entry of each path in the order of the paths, finds every entry that
it keeps by its path and nothing else, and finds by file id the greatest path that has it. -/
theorem isCatalogOf_ofEntries (entries : List Entry) : IsCatalogOf (ofEntries entries) entries := by
  have strict := pairwise_ofEntries entries
  refine ⟨?_, fun entry => mem_ofEntries, size_ofEntries entries, fun path entry => ?_,
    fun path => ?_, fun fileId entry => ?_, fun fileId => byId?_eq_none_iff, ?_⟩
  · exact strict.imp Bytes.ofText_lt_of_lt
  · rw [byPath?_eq_some_iff strict, mem_ofEntries]
  · rw [byPath?_ofEntries]
    simp [madeAbsolute]
  · simp only [Bytes.ofText_lt_ofText_iff]
    exact byId?_eq_some_iff strict
  · intro fileId entry found
    exact (byPath?_eq_some_iff strict).2 ⟨((byId?_eq_some_iff strict).1 found).1, rfl⟩

end Catalog

end SealGate.Vault
