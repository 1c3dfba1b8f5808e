import SealGate.Proofs.Vault.Listing

/-! Directories in a listing. A name should stand in a listing once, and directories should come
before files. The sub-folders that paths imply come first and each once; but an entry of the folder
itself is put among the files, also if it is a directory. So a listing is in order if and only if no
entry has the name of an implied sub-folder and no directory among the entries comes behind a file
by its name. -/

namespace SealGate.Vault.Catalog

variable {catalog : Catalog} {lead : List Char} {folder : String} {names : List String}
  {files : List Entry}

/-- No name stands in the listing twice, and what comes before a directory is one. -/
structure IsOrderly (listing : List Entry) : Prop where
  names : (listing.map Entry.path).Nodup
  directories : listing.Pairwise fun earlier later => later.isDir = true → earlier.isDir = true

/-- The entry lies in the folder with the lead, under a name. -/
def LiesIn (lead : List Char) (name : String) (entry : Entry) : Prop :=
  name ≠ "" ∧ '/' ∉ name.toList ∧ entry.path.toList = lead ++ name.toList

/-- The entry lies below a sub-folder with a name. -/
def LiesBelow (lead : List Char) (name : String) (entry : Entry) : Prop :=
  name ≠ "" ∧ '/' ∉ name.toList ∧ ∃ rest, entry.path.toList = lead ++ (name.toList ++ '/' :: rest)

/-- No entry of the folder has the name of a sub-folder that others lie below, and no directory
among its entries comes behind an entry that is none. -/
structure IsSeparated (catalog : Catalog) (lead : List Char) : Prop where
  apart : ∀ entry ∈ catalog.files, ∀ other ∈ catalog.files, ∀ name,
    LiesIn lead name entry → ¬ LiesBelow lead name other
  first : ∀ entry ∈ catalog.files, ∀ other ∈ catalog.files, ∀ name next,
    LiesIn lead name entry → LiesIn lead next other → name < next →
      other.isDir = true → entry.isDir = true

/-! ### The two conditions -/

/-- Of entries in strict order, what holds for each and the later ones holds by their paths. -/
theorem pairwise_iff_of_strict {related : Entry → Entry → Prop}
    (strict : files.Pairwise fun a b => a.path < b.path) :
    files.Pairwise related ↔ ∀ one ∈ files, ∀ other ∈ files, one.path < other.path →
      related one other := by
  constructor
  · intro all
    induction files with
    | nil => simp
    | cons entry files ih =>
      obtain ⟨lowest, strict⟩ := List.pairwise_cons.1 strict
      obtain ⟨first, all⟩ := List.pairwise_cons.1 all
      intro one mem other mem' below
      rcases List.mem_cons.1 mem with rfl | inner <;> rcases List.mem_cons.1 mem' with rfl | inner'
      · exact absurd below (lt_irrefl _)
      · exact first other inner'
      · exact absurd below (lowest one inner).asymm
      · exact ih strict all one inner other inner' below
  · exact fun all => strict.imp_of_mem fun mem mem' below => all _ mem _ mem' below

theorem map_path_directories : (names.map Entry.directory).map Entry.path = names := by
  rw [List.map_map]
  exact List.map_id names

/-- A name stands twice only if a sub-folder and an entry have it. -/
theorem nodup_names_iff (ordered : names.Pairwise (· < ·))
    (strict : files.Pairwise fun a b => a.path < b.path) :
    ((names.map Entry.directory ++ files).map Entry.path).Nodup ↔
      ∀ file ∈ files, file.path ∉ names := by
  have once : names.Nodup := ordered.imp fun below => below.ne
  have paths : (files.map Entry.path).Nodup :=
    List.pairwise_map.2 (strict.imp fun below => below.ne)
  rw [List.map_append, map_path_directories, List.nodup_append]
  constructor
  · rintro ⟨-, -, distinct⟩ file mem held
    exact distinct _ held _ (List.mem_map_of_mem mem) rfl
  · rintro apart
    refine ⟨once, paths, ?_⟩
    rintro name held path mem rfl
    obtain ⟨file, mem, same⟩ := List.mem_map.1 mem
    exact apart file mem (same ▸ held)

/-- The sub-folders are directories, so only the entries behind them matter. -/
theorem pairwise_directories_iff (strict : files.Pairwise fun a b => a.path < b.path) :
    ((names.map Entry.directory ++ files).Pairwise fun earlier later =>
        later.isDir = true → earlier.isDir = true) ↔
      ∀ one ∈ files, ∀ other ∈ files, one.path < other.path →
        other.isDir = true → one.isDir = true := by
  rw [List.pairwise_append, pairwise_iff_of_strict strict]
  have directory : ∀ entry ∈ names.map Entry.directory, entry.isDir = true := by
    intro entry mem
    obtain ⟨name, -, rfl⟩ := List.mem_map.1 mem
    rfl
  constructor
  · exact fun all => all.2.1
  · intro first
    -- whatever stands behind a sub-folder, a directory comes before it
    refine ⟨List.pairwise_of_forall_mem_list fun one mem _ _ _ => directory one mem, first, ?_⟩
    exact fun one mem _ _ _ => directory one mem

/-! ### In terms of the catalog -/

theorem mem_folders_iff_liesBelow (strict : catalog.files.Pairwise fun a b => a.path < b.path)
    (name : String) :
    name ∈ catalog.folders lead ↔ ∃ entry ∈ catalog.files, LiesBelow lead name entry := by
  rw [(isListing strict lead).mem_names]
  constructor
  · rintro ⟨filled, free, entry, held, below⟩
    exact ⟨entry, held, filled, free, below⟩
  · rintro ⟨entry, held, filled, free, below⟩
    exact ⟨filled, free, entry, held, below⟩

theorem mem_filesIn_iff_liesIn (strict : catalog.files.Pairwise fun a b => a.path < b.path)
    (file : Entry) :
    file ∈ catalog.filesIn lead ↔
      ∃ entry ∈ catalog.files, ∃ name, LiesIn lead name entry ∧ file = { entry with path := name } := by
  rw [(isListing strict lead).mem_files]
  constructor
  · rintro ⟨entry, held, name, filled, free, path, shown⟩
    exact ⟨entry, held, name, ⟨filled, free, path⟩, shown⟩
  · rintro ⟨entry, held, name, ⟨filled, free, path⟩, shown⟩
    exact ⟨entry, held, name, filled, free, path, shown⟩

/-- A listing is in order if and only if the entries of the folder are separated. -/
theorem isOrderly_listFolder_iff (entries : List Entry) (folder : String) :
    IsOrderly ((ofEntries entries).listFolder folder) ↔
      IsSeparated (ofEntries entries) (folderLead folder) := by
  have strict := pairwise_ofEntries entries
  have files : ((ofEntries entries).filesIn (folderLead folder)).Pairwise
      fun a b => a.path < b.path := pairwise_filesIn strict
  rw [listFolder_of_strict strict]
  constructor
  · rintro ⟨distinct, directories⟩
    refine ⟨?_, ?_⟩
    · intro entry held other held' name inside below
      refine (nodup_names_iff pairwise_folders files).1 distinct { entry with path := name } ?_ ?_
      · exact (mem_filesIn_iff_liesIn strict _).2 ⟨entry, held, name, inside, rfl⟩
      · exact (mem_folders_iff_liesBelow strict name).2 ⟨other, held', below⟩
    · intro entry held other held' name next inside inside' below
      refine (pairwise_directories_iff files).1 directories { entry with path := name } ?_
        { other with path := next } ?_ below
      · exact (mem_filesIn_iff_liesIn strict _).2 ⟨entry, held, name, inside, rfl⟩
      · exact (mem_filesIn_iff_liesIn strict _).2 ⟨other, held', next, inside', rfl⟩
  · rintro ⟨apart, first⟩
    refine ⟨(nodup_names_iff pairwise_folders files).2 ?_, (pairwise_directories_iff files).2 ?_⟩
    · intro file mem named
      obtain ⟨entry, held, name, inside, rfl⟩ := (mem_filesIn_iff_liesIn strict file).1 mem
      obtain ⟨other, held', below⟩ := (mem_folders_iff_liesBelow strict name).1 named
      exact apart entry held other held' name inside below
    · intro one mem other mem' below
      obtain ⟨entry, held, name, inside, rfl⟩ := (mem_filesIn_iff_liesIn strict one).1 mem
      obtain ⟨entry', held', next, inside', rfl⟩ := (mem_filesIn_iff_liesIn strict other).1 mem'
      exact first entry held entry' held' name next inside inside' below

/-- A file, a directory that is named by an entry, and a file in that directory. -/
def namedDirectory : List Entry :=
  [⟨"/a.txt", false, none, none, none, none, none⟩, Entry.directory "/docs",
    ⟨"/docs/one.md", false, none, none, none, none, none⟩]

/-- The directory is listed twice, and the second time behind a file. -/
theorem directory_listed_twice :
    (ofEntries namedDirectory).listFolder "/" =
      [Entry.directory "docs", ⟨"a.txt", false, none, none, none, none, none⟩,
        Entry.directory "docs"] ∧
      ¬ (((ofEntries namedDirectory).listFolder "/").map Entry.path).Nodup ∧
      ¬ ((ofEntries namedDirectory).listFolder "/").Pairwise
        fun earlier later => later.isDir = true → earlier.isDir = true := by
  have files : (ofEntries namedDirectory).files = namedDirectory :=
    files_ofEntries (by decide +kernel) (by decide +kernel)
  have listed : (ofEntries namedDirectory).listFolder "/" =
      [Entry.directory "docs", ⟨"a.txt", false, none, none, none, none, none⟩,
        Entry.directory "docs"] := by
    rw [listFolder_of_strict (pairwise_ofEntries _), folders, filesIn, files]
    decide +kernel
  rw [listed]
  exact ⟨rfl, by decide, by decide⟩

end SealGate.Vault.Catalog
