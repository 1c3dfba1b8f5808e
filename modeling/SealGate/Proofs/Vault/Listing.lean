import Mathlib.Data.List.Sort
import SealGate.Proofs.Bytes.Text
import SealGate.Proofs.Vault.Catalog

/-! What a folder lists, in which order. The lead of a folder is its path with one slash at the
end; the paths that start with it lie in the folder or below it. First come the names up to the
next slash, each once, and behind them the files whose paths have no further slash, by what is left
of their paths. Both are in strict order, so that a listing is determined by what is in it. -/

namespace SealGate.Vault.Catalog

variable {catalog : Catalog} {lead : List Char} {folder : String}

/-! ### Order -/

theorem pairwise_folders : (catalog.folders lead).Pairwise (· < ·) :=
  (foldl_insertName List.Pairwise.nil).1

/-- Without a common lead, paths are in the order in which they were with it. -/
theorem path_lt_of_shown {one other file file' : Entry} (below : one.path < other.path)
    (shown : child? lead one = some (.file file)) (shown' : child? lead other = some (.file file')) :
    file.path < file'.path := by
  obtain ⟨rest, path, -, -, rfl⟩ := child?_eq_file_iff.1 shown
  obtain ⟨rest', path', -, -, rfl⟩ := child?_eq_file_iff.1 shown'
  rw [String.lt_iff_toList_lt, path, path'] at below
  rw [String.lt_iff_toList_lt, String.toList_ofList, String.toList_ofList]
  by_contra above
  exact List.append_left_le (List.not_lt.1 above) below

theorem pairwise_filesIn (strict : catalog.files.Pairwise fun a b => a.path < b.path) :
    (catalog.filesIn lead).Pairwise fun a b => a.path < b.path := by
  rw [filesIn, List.filterMap_filterMap]
  refine strict.filterMap _ ?_
  intro one other below file shown file' shown'
  exact path_lt_of_shown below (bind_file?_eq_some_iff.1 shown) (bind_file?_eq_some_iff.1 shown')

/-- The files of a folder stand in the order of their names already. -/
theorem listFolder_of_strict (strict : catalog.files.Pairwise fun a b => a.path < b.path) :
    catalog.listFolder folder =
      (catalog.folders (folderLead folder)).map Entry.directory ++
        catalog.filesIn (folderLead folder) := by
  have sorted : (catalog.filesIn (folderLead folder)).Pairwise
      fun a b => decide (a.path ≤ b.path) = true :=
    (pairwise_filesIn strict).imp fun below => by simpa using below.le
  rw [listFolder_eq, sortByPath, List.mergeSort_of_pairwise sorted]

/-! ### Leads -/

theorem folderLead_slash (bare : folder.toList.getLast? ≠ some '/') :
    folderLead (folder ++ "/") = folderLead folder := by
  rw [folderLead, folderLead, if_neg bare, if_pos (by simp)]
  simp

theorem listFolder_slash (bare : folder.toList.getLast? ≠ some '/') :
    catalog.listFolder (folder ++ "/") = catalog.listFolder folder := by
  rw [listFolder_eq, listFolder_eq, folderLead_slash bare]

/-! ### Listings -/

/-- What a listing of the folder with a lead has for sub-folders and for files. -/
structure IsListing (catalog : Catalog) (lead : List Char) (names : List String)
    (files : List Entry) : Prop where
  names_ordered : names.Pairwise fun a b => Bytes.ofText a < Bytes.ofText b
  mem_names : ∀ name, name ∈ names ↔ name ≠ "" ∧ '/' ∉ name.toList ∧
    ∃ entry ∈ catalog.files, ∃ rest, entry.path.toList = lead ++ (name.toList ++ '/' :: rest)
  files_ordered : files.Pairwise fun a b => Bytes.ofText a.path < Bytes.ofText b.path
  mem_files : ∀ file, file ∈ files ↔ ∃ entry ∈ catalog.files, ∃ name, name ≠ "" ∧
    '/' ∉ name.toList ∧ entry.path.toList = lead ++ name.toList ∧
      file = { entry with path := name }

theorem isListing (strict : catalog.files.Pairwise fun a b => a.path < b.path)
    (lead : List Char) : IsListing catalog lead (catalog.folders lead) (catalog.filesIn lead) where
  names_ordered := pairwise_folders.imp Bytes.ofText_lt_of_lt
  mem_names name := by
    rw [mem_folders]
    simp only [child?_eq_folder_iff, ne_eq, String.toList_eq_nil_iff]
    constructor
    · rintro ⟨entry, held, filled, free, behind⟩
      exact ⟨filled, free, entry, held, behind⟩
    · rintro ⟨filled, free, entry, held, behind⟩
      exact ⟨entry, held, filled, free, behind⟩
  files_ordered := (pairwise_filesIn strict).imp Bytes.ofText_lt_of_lt
  mem_files file := by
    rw [mem_filesIn]
    constructor
    · rintro ⟨entry, held, shown⟩
      obtain ⟨rest, path, filled, free, rfl⟩ := child?_eq_file_iff.1 shown
      exact ⟨entry, held, String.ofList rest, by simpa using filled, by simpa using free,
        by simpa using path, rfl⟩
    · rintro ⟨entry, held, name, filled, free, path, rfl⟩
      refine ⟨entry, held, child?_eq_file_iff.2 ⟨name.toList, path, ?_, free, by simp⟩⟩
      simpa using filled

theorem eq_of_ordered {α : Type} (text : α → String) {one other : List α}
    (ordered : one.Pairwise fun a b => Bytes.ofText (text a) < Bytes.ofText (text b))
    (ordered' : other.Pairwise fun a b => Bytes.ofText (text a) < Bytes.ofText (text b))
    (same : ∀ a, a ∈ one ↔ a ∈ other) : one = other := by
  have asymm : Std.Asymm fun a b : α => Bytes.ofText (text a) < Bytes.ofText (text b) :=
    ⟨fun _ _ => List.lt_asymm⟩
  exact ordered.eq_of_mem_iff ordered' same

/-- A listing is determined by what is in it. -/
theorem IsListing.unique {names names' : List String} {files files' : List Entry}
    (listing : IsListing catalog lead names files)
    (listing' : IsListing catalog lead names' files') : names = names' ∧ files = files' := by
  constructor
  · refine eq_of_ordered id listing.names_ordered listing'.names_ordered fun name => ?_
    rw [listing.mem_names, listing'.mem_names]
  · refine eq_of_ordered Entry.path listing.files_ordered listing'.files_ordered fun file => ?_
    rw [listing.mem_files, listing'.mem_files]

/-- A folder lists the names of its sub-folders and then its files, both in the order of their
bytes, and a slash at the end of the folder makes no difference. -/
theorem listFolder_ofEntries (entries : List Entry) (folder : String) :
    (∀ shown, (ofEntries entries).listFolder folder = shown ↔
      ∃ names files, IsListing (ofEntries entries) (folderLead folder) names files ∧
        shown = names.map Entry.directory ++ files) ∧
    (folder.toList.getLast? ≠ some '/' →
      (ofEntries entries).listFolder (folder ++ "/") = (ofEntries entries).listFolder folder) := by
  have strict := pairwise_ofEntries entries
  have own := isListing strict (folderLead folder)
  refine ⟨fun shown => ?_, listFolder_slash⟩
  rw [listFolder_of_strict strict]
  constructor
  · rintro rfl
    exact ⟨_, _, own, rfl⟩
  · rintro ⟨names, files, listing, rfl⟩
    obtain ⟨rfl, rfl⟩ := listing.unique own
    rfl

end SealGate.Vault.Catalog
