import Mathlib.Data.List.Basic
import Mathlib.Data.List.Nodup
import Mathlib.Data.String.Basic
import SealGate.Vault.Catalog

/-! What a catalog holds and what a folder shows of it. The paths of a catalog are absolute and all
differ, being in strict order once repeated ones are dropped. A folder shows each sub-folder that
the paths below it name, and each file that lies in it, by what is left of the path; nothing is
shown twice as long as no entry is itself a directory. -/

namespace SealGate.Vault

open Text

/-! ### The order of paths -/

theorem pairwise_sortByPath (entries : List Entry) :
    (sortByPath entries).Pairwise fun a b => a.path ≤ b.path := by
  have sorted : (sortByPath entries).Pairwise fun a b => decide (a.path ≤ b.path) = true := by
    refine List.pairwise_mergeSort ?_ ?_ entries
    · simpa using fun a b c : Entry => le_trans
    · simp [le_total]
  simpa using sorted

theorem mem_sortByPath {entry : Entry} {entries : List Entry} :
    entry ∈ sortByPath entries ↔ entry ∈ entries :=
  (List.mergeSort_perm entries _).mem_iff

theorem dropRepeated_sublist (entries : List Entry) : (dropRepeated entries).Sublist entries := by
  induction entries with
  | nil => exact List.Sublist.refl []
  | cons entry rest ih =>
    rw [dropRepeated]
    cases kept : dropRepeated rest with
    | nil => exact List.Sublist.cons_cons entry (List.nil_sublist rest)
    | cons next behind =>
      rw [kept] at ih
      dsimp only
      split
      · exact List.Sublist.cons_cons entry (List.sublist_of_cons_sublist ih)
      · exact List.Sublist.cons_cons entry ih

/-- Dropping repeated entries leaves ordered paths in strict order. -/
theorem pairwise_dropRepeated {entries : List Entry}
    (sorted : entries.Pairwise fun a b => a.path ≤ b.path) :
    (dropRepeated entries).Pairwise fun a b => a.path < b.path := by
  induction entries with
  | nil => exact List.Pairwise.nil
  | cons entry rest ih =>
    obtain ⟨first, rest_sorted⟩ := List.pairwise_cons.1 sorted
    have strict := ih rest_sorted
    have kept_le : ∀ other ∈ dropRepeated rest, entry.path ≤ other.path :=
      fun other mem => first other ((dropRepeated_sublist rest).mem mem)
    rw [dropRepeated]
    cases kept : dropRepeated rest with
    | nil => exact List.pairwise_singleton _ _
    | cons next behind =>
      rw [kept] at strict kept_le
      obtain ⟨next_lt, behind_strict⟩ := List.pairwise_cons.1 strict
      dsimp only
      split
      next same =>
        refine List.pairwise_cons.2 ⟨?_, behind_strict⟩
        rwa [same]
      next other =>
        have below : entry.path < next.path :=
          lt_of_le_of_ne (kept_le next List.mem_cons_self) other
        refine List.pairwise_cons.2 ⟨?_, strict⟩
        intro entry' mem
        rcases List.mem_cons.1 mem with rfl | mem
        · exact below
        · exact below.trans (next_lt entry' mem)

namespace Catalog

theorem pairwise_ofEntries (entries : List Entry) :
    (ofEntries entries).files.Pairwise fun a b => a.path < b.path :=
  pairwise_dropRepeated (pairwise_sortByPath _)

theorem nodup_paths_ofEntries (entries : List Entry) :
    ((ofEntries entries).files.map Entry.path).Nodup :=
  List.pairwise_map.2 ((pairwise_ofEntries entries).imp fun below => below.ne)

/-- What is kept are given entries with their paths made absolute. -/
theorem exists_of_mem_ofEntries {entries : List Entry} {entry : Entry}
    (mem : entry ∈ (ofEntries entries).files) :
    ∃ given ∈ entries, entry = { given with path := absolute given.path } := by
  have sorted := mem_sortByPath.1 ((dropRepeated_sublist _).mem mem)
  obtain ⟨given, held, rfl⟩ := List.mem_map.1 sorted
  exact ⟨given, held, rfl⟩

end Catalog

theorem exists_absolute (path : String) : ∃ rest, (absolute path).toList = '/' :: rest := by
  rw [absolute]
  split
  next rest same => exact ⟨rest, same⟩
  next => exact ⟨path.toList, by simp⟩

theorem dropRepeated_of_strict {entries : List Entry}
    (strict : entries.Pairwise fun a b => a.path < b.path) : dropRepeated entries = entries := by
  induction entries with
  | nil => rfl
  | cons entry rest ih =>
    obtain ⟨first, strict⟩ := List.pairwise_cons.1 strict
    rw [dropRepeated, ih strict]
    cases rest with
    | nil => rfl
    | cons next behind =>
      dsimp only
      rw [if_neg (first next List.mem_cons_self).ne]

/-- Entries with absolute paths in strict order are kept as they are. -/
theorem Catalog.files_ofEntries {entries : List Entry}
    (rooted : ∀ entry ∈ entries, absolute entry.path = entry.path)
    (strict : entries.Pairwise fun a b => a.path < b.path) : (ofEntries entries).files = entries := by
  have same : (entries.map fun entry => { entry with path := absolute entry.path }) = entries :=
    (List.map_congr_left fun entry mem => by rw [rooted entry mem]).trans (List.map_id' entries)
  have sorted : entries.Pairwise fun a b => decide (a.path ≤ b.path) = true :=
    strict.imp fun below => by simpa using below.le
  rw [ofEntries, same, sortByPath, List.mergeSort_of_pairwise sorted, dropRepeated_of_strict strict]

/-! ### Names in order -/

theorem mem_insertName {name other : String} {names : List String} :
    other ∈ insertName name names ↔ other = name ∨ other ∈ names := by
  induction names with
  | nil => simp [insertName]
  | cons n names ih =>
    rw [insertName]
    split
    next same => simp [same]
    next =>
      split
      · simp
      · simp [ih, or_left_comm]

theorem pairwise_insertName {name : String} {names : List String}
    (sorted : names.Pairwise (· < ·)) : (insertName name names).Pairwise (· < ·) := by
  induction names with
  | nil => exact List.pairwise_singleton _ _
  | cons n names ih =>
    obtain ⟨first, rest⟩ := List.pairwise_cons.1 sorted
    rw [insertName]
    split
    next => exact sorted
    next other =>
      split
      next below =>
        refine List.pairwise_cons.2 ⟨?_, sorted⟩
        intro later mem
        rcases List.mem_cons.1 mem with rfl | mem
        · exact below
        · exact below.trans (first later mem)
      next above =>
        refine List.pairwise_cons.2 ⟨?_, ih rest⟩
        intro later mem
        rcases mem_insertName.1 mem with rfl | mem
        · exact lt_of_le_of_ne (not_lt.1 above) fun same => other same.symm
        · exact first later mem

/-- Names put in one after the other. -/
def namesOf (names : List String) : List String :=
  names.foldl (fun names name => insertName name names) []

theorem foldl_insertName {names known : List String} (sorted : known.Pairwise (· < ·)) :
    (names.foldl (fun names name => insertName name names) known).Pairwise (· < ·) ∧
      ∀ name, name ∈ names.foldl (fun names name => insertName name names) known ↔
        name ∈ names ∨ name ∈ known := by
  induction names generalizing known with
  | nil => exact ⟨sorted, by simp⟩
  | cons n names ih =>
    obtain ⟨strict, held⟩ := ih (pairwise_insertName sorted)
    refine ⟨strict, fun name => ?_⟩
    rw [List.foldl_cons, held, mem_insertName, List.mem_cons]
    tauto

theorem mem_namesOf {names : List String} {name : String} :
    name ∈ namesOf names ↔ name ∈ names := by
  rw [namesOf, (foldl_insertName List.Pairwise.nil).2]
  simp

theorem nodup_namesOf (names : List String) : (namesOf names).Nodup :=
  (foldl_insertName List.Pairwise.nil).1.imp fun below => below.ne

/-! ### What a folder shows -/

namespace Catalog

/-- The entry that a listing has for a child. -/
def Child.entry : Child → Entry
  | .folder name => Entry.directory name
  | .file entry => entry

theorem Child.folder?_eq_some_iff {child : Child} {name : String} :
    child.folder? = some name ↔ child = .folder name := by
  cases child <;> simp [folder?]

theorem Child.file?_eq_some_iff {child : Child} {file : Entry} :
    child.file? = some file ↔ child = .file file := by
  cases child <;> simp [file?]

/-- What a folder shows of an entry. -/
def shown? (lead : List Char) (entry : Entry) : Option Entry :=
  (child? lead entry).map Child.entry

variable {lead rest : List Char} {entry : Entry}

theorem child?_of_split {before behind : List Char} (path : entry.path.toList = lead ++ rest)
    (split : splitFirst '/' rest = some (before, behind)) :
    child? lead entry = if before = [] then none else some (.folder (String.ofList before)) := by
  simp only [child?, path, after?_append, split]

theorem child?_of_whole (path : entry.path.toList = lead ++ rest)
    (whole : splitFirst '/' rest = none) :
    child? lead entry =
      if rest = [] then none else some (.file { entry with path := String.ofList rest }) := by
  simp only [child?, path, after?_append, whole]

theorem child?_eq_none (outside : ∀ rest, entry.path.toList ≠ lead ++ rest) :
    child? lead entry = none := by
  rw [child?]
  cases after : after? lead entry.path.toList with
  | none => rfl
  | some rest => exact absurd (after?_eq_some_iff.1 after) (outside rest)

/-- An entry names a sub-folder if its path goes on below it. -/
theorem child?_eq_folder_iff {name : String} :
    child? lead entry = some (.folder name) ↔
      name.toList ≠ [] ∧ '/' ∉ name.toList ∧
        ∃ behind, entry.path.toList = lead ++ (name.toList ++ '/' :: behind) := by
  constructor
  · intro held
    by_cases inside : ∃ rest, entry.path.toList = lead ++ rest
    · obtain ⟨rest, path⟩ := inside
      cases split : splitFirst '/' rest with
      | none =>
        rw [child?_of_whole path split] at held
        split at held <;> simp at held
      | some parts =>
        obtain ⟨before, behind⟩ := parts
        obtain ⟨rfl, free⟩ := splitFirst_eq_some_iff.1 split
        rw [child?_of_split path split] at held
        split at held
        · simp at held
        next filled =>
          obtain rfl : String.ofList before = name := by simpa using held
          exact ⟨by simpa using filled, by simpa using free, behind, by simpa using path⟩
    · rw [child?_eq_none fun rest path => inside ⟨rest, path⟩] at held
      cases held
  · rintro ⟨filled, free, behind, path⟩
    rw [child?_of_split path (splitFirst_eq_some_iff.2 ⟨rfl, free⟩), if_neg filled,
      String.ofList_toList]

/-- An entry is a file of a folder if its path ends there. -/
theorem child?_eq_file_iff {file : Entry} :
    child? lead entry = some (.file file) ↔
      ∃ rest, entry.path.toList = lead ++ rest ∧ rest ≠ [] ∧ '/' ∉ rest ∧
        file = { entry with path := String.ofList rest } := by
  constructor
  · intro held
    by_cases inside : ∃ rest, entry.path.toList = lead ++ rest
    · obtain ⟨rest, path⟩ := inside
      cases split : splitFirst '/' rest with
      | none =>
        rw [child?_of_whole path split] at held
        split at held
        · simp at held
        next filled =>
          refine ⟨rest, path, filled, splitFirst_eq_none_iff.1 split, ?_⟩
          simpa using held.symm
      | some parts =>
        rw [child?_of_split path split] at held
        split at held <;> simp at held
    · rw [child?_eq_none fun rest path => inside ⟨rest, path⟩] at held
      cases held
  · rintro ⟨rest, path, filled, free, rfl⟩
    rw [child?_of_whole path (splitFirst_eq_none_iff.2 free), if_neg filled]

/-- With the lead before its name, a file of a folder is the entry it is shown for. -/
theorem rejoined {file : Entry} (shown : child? lead entry = some (.file file)) :
    { file with path := String.ofList (lead ++ file.path.toList) } = entry := by
  obtain ⟨rest, path, -, -, rfl⟩ := child?_eq_file_iff.1 shown
  simp [← path]

theorem isDir_of_file {file : Entry} (shown : child? lead entry = some (.file file)) :
    file.isDir = entry.isDir := by
  obtain ⟨rest, -, -, -, rfl⟩ := child?_eq_file_iff.1 shown
  rfl

/-! ### Listings -/

variable {catalog : Catalog} {folder : String}

/-- The sub-folders that some paths name. -/
def folders (catalog : Catalog) (lead : List Char) : List String :=
  namesOf ((catalog.files.filterMap (child? lead)).filterMap Child.folder?)

/-- The files that lie in a folder, by their names in it. -/
def filesIn (catalog : Catalog) (lead : List Char) : List Entry :=
  (catalog.files.filterMap (child? lead)).filterMap Child.file?

theorem listFolder_eq : catalog.listFolder folder =
    (catalog.folders (folderLead folder)).map Entry.directory ++
      sortByPath (catalog.filesIn (folderLead folder)) := rfl

theorem mem_folders {name : String} :
    name ∈ catalog.folders lead ↔
      ∃ entry ∈ catalog.files, child? lead entry = some (.folder name) := by
  rw [folders, mem_namesOf]
  simp [Child.folder?_eq_some_iff]

theorem mem_filesIn {file : Entry} :
    file ∈ catalog.filesIn lead ↔
      ∃ entry ∈ catalog.files, child? lead entry = some (.file file) := by
  rw [filesIn]
  simp [Child.file?_eq_some_iff]

theorem mem_listFolder {child : Entry} :
    child ∈ catalog.listFolder folder ↔
      ∃ entry ∈ catalog.files, shown? (folderLead folder) entry = some child := by
  rw [listFolder_eq, List.mem_append, mem_sortByPath, mem_filesIn, List.mem_map]
  simp only [mem_folders, shown?, Option.map_eq_some_iff]
  constructor
  · rintro (⟨name, ⟨entry, held, shown⟩, rfl⟩ | ⟨entry, held, shown⟩)
    · exact ⟨entry, held, _, shown, rfl⟩
    · exact ⟨entry, held, _, shown, rfl⟩
  · rintro ⟨entry, held, own, shown, rfl⟩
    cases own with
    | folder name => exact .inl ⟨name, ⟨entry, held, shown⟩, rfl⟩
    | file file => exact .inr ⟨entry, held, shown⟩

theorem bind_file?_eq_some_iff {file : Entry} :
    (child? lead entry).bind Child.file? = some file ↔ child? lead entry = some (.file file) := by
  rw [Option.bind_eq_some_iff]
  simp [Child.file?_eq_some_iff]

theorem nodup_filesIn (distinct : catalog.files.Nodup) : (catalog.filesIn lead).Nodup := by
  rw [filesIn, List.filterMap_filterMap]
  refine distinct.filterMap ?_
  intro one other file mem mem'
  have one_eq := rejoined (bind_file?_eq_some_iff.1 mem)
  have other_eq := rejoined (bind_file?_eq_some_iff.1 mem')
  exact one_eq.symm.trans other_eq

/-- A folder shows nothing twice, if none of the entries is a directory. -/
theorem nodup_listFolder (distinct : catalog.files.Nodup)
    (plain : ∀ entry ∈ catalog.files, entry.isDir = false) :
    (catalog.listFolder folder).Nodup := by
  have named : ((catalog.folders (folderLead folder)).map Entry.directory).Nodup :=
    (nodup_namesOf _).map fun one other same => congrArg Entry.path same
  have sorted : (sortByPath (catalog.filesIn (folderLead folder))).Nodup :=
    (List.mergeSort_perm _ _).nodup_iff.2 (nodup_filesIn distinct)
  rw [listFolder_eq]
  refine List.nodup_append.2 ⟨named, sorted, ?_⟩
  rintro child folder_mem file file_mem rfl
  obtain ⟨name, -, rfl⟩ := List.mem_map.1 folder_mem
  obtain ⟨entry, held, shown⟩ := mem_filesIn.1 (mem_sortByPath.1 file_mem)
  have isDir := isDir_of_file shown
  rw [plain entry held] at isDir
  cases isDir

end Catalog

end SealGate.Vault
