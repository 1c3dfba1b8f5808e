import SealGate.Proofs.Gateway.Details
import SealGate.Proofs.Vault.Walk

/-! The folder of a file. It is the path up to its last slash, the listing of a folder cuts paths
behind the folder's slash, and what is left is a file if it has no slash itself: three cuts, made
apart from each other, that fall on the same place. So the folder that is told of a file is one
whose listing, asked for in whatever spelling, has that file under its name. -/

namespace SealGate

open Http Session Vault Origin Reader

namespace Text

variable {mark : Char} {text front name : List Char}

theorem uptoLast?_of_free (free : mark ∉ text) : uptoLast? mark text = none := by
  induction text with
  | nil => rfl
  | cons c text ih =>
    rw [List.mem_cons, not_or] at free
    rw [uptoLast?, ih free.2, if_neg fun same => free.1 same.symm]

theorem uptoLast?_append (free : mark ∉ name) :
    uptoLast? mark (front ++ mark :: name) = some (front ++ [mark]) := by
  induction front with
  | nil => rw [List.nil_append, uptoLast?, uptoLast?_of_free free, if_pos rfl, List.nil_append]
  | cons c front ih => rw [List.cons_append, uptoLast?, ih, List.cons_append]

theorem free_of_pieces (single : pieces (· == mark) text = [name]) : text = name ∧ mark ∉ text := by
  induction text generalizing name with
  | nil =>
    obtain rfl := (List.cons.inj single).1
    exact ⟨rfl, by simp⟩
  | cons c text ih =>
    obtain ⟨first, others, split⟩ := exists_pieces (· == mark) text
    rw [pieces_cons split] at single
    by_cases marks : c = mark
    · rw [if_pos marks] at single
      cases (List.cons.inj single).2
    · rw [if_neg marks] at single
      obtain ⟨rfl, rfl⟩ := List.cons.inj single
      obtain ⟨rfl, free⟩ := ih split
      exact ⟨rfl, by simp [Ne.symm marks, free]⟩

/-- The last piece behind a mark is what stands behind the last mark. -/
theorem exists_front_of_pieces (last : (pieces (· == mark) text).tail.getLast? = some name) :
    ∃ front, text = front ++ mark :: name ∧ mark ∉ name := by
  induction text with
  | nil => cases last
  | cons c text ih =>
    obtain ⟨first, others, split⟩ := exists_pieces (· == mark) text
    rw [pieces_cons split] at last
    rw [split, List.tail_cons] at ih
    by_cases marks : c = mark
    · rw [if_pos marks, List.tail_cons] at last
      cases others with
      | nil =>
        obtain rfl : first = name := Option.some.inj last
        obtain ⟨rfl, free⟩ := free_of_pieces split
        exact ⟨[], by rw [marks, List.nil_append], free⟩
      | cons second others =>
        rw [List.getLast?_cons_cons] at last
        obtain ⟨front, rfl, free⟩ := ih last
        exact ⟨c :: front, rfl, free⟩
    · rw [if_neg marks, List.tail_cons] at last
      obtain ⟨front, rfl, free⟩ := ih last
      exact ⟨c :: front, rfl, free⟩

end Text

namespace Vault

/-- The last component of a path. -/
def IsLastComponent (path name : String) : Prop :=
  (components path).getLast? = some name.toList

instance (path name : String) : Decidable (IsLastComponent path name) :=
  inferInstanceAs (Decidable (_ = _))

theorem IsLastComponent.exists_front {path name : String} (last : IsLastComponent path name) :
    ∃ front, path.toList = front ++ '/' :: name.toList ∧ '/' ∉ name.toList :=
  Text.exists_front_of_pieces last

/-- A folder shows an entry whose path goes on with a name behind the lead of the folder. -/
theorem Catalog.mem_listFolder_of_name {catalog : Catalog} {entry : Entry} {folder name : String}
    (held : entry ∈ catalog.files)
    (path : entry.path.toList = folderLead folder ++ name.toList) (filled : name ≠ "")
    (free : '/' ∉ name.toList) : { entry with path := name } ∈ catalog.listFolder folder := by
  have shown : child? (folderLead folder) entry = some (.file { entry with path := name }) :=
    child?_eq_file_iff.2 ⟨name.toList, path, by simpa using filled, free, by simp⟩
  exact mem_listFolder.2 ⟨entry, held, by rw [shown?, shown]; rfl⟩

end Vault

namespace Gateway

/-! ### The folder in the path -/

theorem toList_parentFolder {path name : String} {front : List Char}
    (split : path.toList = front ++ '/' :: name.toList) (free : '/' ∉ name.toList) :
    (parentFolder path).toList = front ++ ['/'] := by
  simp only [parentFolder, split, Text.uptoLast?_append free, String.toList_ofList]

theorem folderLead_parentFolder {path name : String} {front : List Char}
    (split : path.toList = front ++ '/' :: name.toList) (free : '/' ∉ name.toList) :
    Catalog.folderLead (parentFolder path) = front ++ ['/'] := by
  rw [Catalog.folderLead, toList_parentFolder split free, if_pos (by simp)]

theorem isAbsolute_parentFolder {path name : String} (last : IsLastComponent path name)
    (rooted : ∃ rest, path.toList = '/' :: rest) :
    Index.isAbsolute (parentFolder path) = true := by
  obtain ⟨front, split, free⟩ := last.exists_front
  obtain ⟨rest, rooted⟩ := rooted
  rw [Index.isAbsolute, toList_parentFolder split free]
  cases front with
  | nil => rfl
  | cons c front =>
    rw [rooted, List.cons_append] at split
    obtain ⟨rfl, -⟩ := List.cons.inj split
    rfl

/-! ### The folder in requests -/

/-- A request for the listing of a folder, whose path is written in one of its spellings. -/
structure AsksForFolder (folder : String) (request : Request) : Prop where
  method : request.method = "GET"
  path : ∃ spelling, Text.Percent.IsSpelling spelling folder ∧
    request.path = "/api/tree" ++ spelling

variable {g : Gateway} {unlocked : Unlocked Index} {catalog : Catalog} {folder : String}
  {request : Request}

theorem absolute_of_isAbsolute (rooted : Index.isAbsolute folder = true) :
    absolute folder = folder := by
  unfold absolute
  split
  · rfl
  · rename_i other
    cases chars : folder.toList with
    | nil => simp [Index.isAbsolute, chars] at rooted
    | cons c rest =>
      obtain rfl : c = '/' := by simpa [Index.isAbsolute, chars] using rooted
      exact absurd chars (other rest)

/-- Whatever can be read behind the place of listings, with a slash in front, is the folder whose
listing from the index is the answer. -/
theorem serve_tree_of_rest {rest text : String} (known : g.snapshot.unlocked? = some unlocked)
    (method : request.method = "GET") (path : request.path = "/api/tree" ++ rest)
    (decoded : Text.Percent.decode? rest = some text) :
    let asked := g.askIndex (Index.query (·.listFolder (absolute text))) unlocked
    g.serve request = (respond (asked.1.map fun entries =>
      jsonResponse 200 (Entry.listNode entries)), asked.2) := by
  have starts : "/api/tree".toList <+: request.path.toList :=
    ⟨rest.toList, by rw [path, String.toList_append]⟩
  have target : pathAfter request "/api/tree" = .ok text := by
    rw [pathAfter_of_path path, decoded, Option.elim_some]
  have allowed : requireMethod request "GET" = .ok () := if_pos method
  have required : g.requireUnlocked request = .ok unlocked := by
    simp only [requireUnlocked, allowed, known]
    rfl
  intro asked
  rw [serve_of_route (route?_tree (Snapshot.isEnabled_of_unlocked known) starts), handle,
    handleTree]
  simp only [required, target, bind, Except.bind, pure, Except.pure, Index.listFolder_absolute]
  rfl

/-- A request for a folder is answered from the index with the listing of that folder. -/
theorem serve_tree_eq (known : g.snapshot.unlocked? = some unlocked)
    (rooted : Index.isAbsolute folder = true) (asks : AsksForFolder folder request) :
    let asked := g.askIndex (Index.query (·.listFolder folder)) unlocked
    g.serve request = (respond (asked.1.map fun entries =>
      jsonResponse 200 (Entry.listNode entries)), asked.2) := by
  obtain ⟨method, spelling, spells, path⟩ := asks
  have served := serve_tree_of_rest known method path spells.decode?_eq
  rwa [absolute_of_isAbsolute rooted] at served

/-- A folder is listed from the catalog that is held. -/
theorem serve_tree (known : g.snapshot.unlocked? = some unlocked)
    (held : (unlocked.index.held g.engine.link).1 = .ok catalog)
    (rooted : Index.isAbsolute folder = true) (asks : AsksForFolder folder request) :
    (g.serve request).1 = jsonResponse 200 (Entry.listNode (catalog.listFolder folder)) := by
  obtain ⟨later, asked, -⟩ := askIndex_of_held known held (·.listFolder folder)
  rw [serve_tree_eq known rooted asks, asked]
  rfl

/-! ### The folder of an entry -/

variable {entries : List Entry} {entry : Entry} {name : String}

/-- What is told of a file names the folder in its entry's path. -/
theorem serve_metadata_folder {fileId inner : String} {facts : FileFacts}
    (knows : g.Knows (.ofEntries entries) fileId (.ok facts))
    (named : IsNamed (.ofEntries entries) entry fileId inner)
    (asks : AsksFor fileId inner request) :
    (g.serve request).1 = jsonResponse 200 (FileDetails.mk fileId (parentFolder entry.path)
      facts.name entry.date facts.mimeType facts.size entry.digest).toNode :=
  (knows.serve named asks).1

/-- The folder of an entry that has a name ends with a slash, makes up the entry's path with that
name behind it, and lists the entry by it. It is the folder that is told of the file, and a request
for it is answered with that listing. -/
theorem folder_lists_its_file (held : entry ∈ (Catalog.ofEntries entries).files)
    (last : IsLastComponent entry.path name) (filled : name ≠ "") :
    let folder := parentFolder entry.path
    let listing := (Catalog.ofEntries entries).listFolder folder
    (folder.toList.getLast? = some '/' ∧ folder ++ name = entry.path ∧
      { entry with path := name } ∈ listing) ∧
    (∀ (g : Gateway) (request : Request) (fileId inner : String) (facts : FileFacts),
      g.Knows (.ofEntries entries) fileId (.ok facts) →
      IsNamed (.ofEntries entries) entry fileId inner → AsksFor fileId inner request →
      (g.serve request).1 = jsonResponse 200 (FileDetails.mk fileId folder
        facts.name entry.date facts.mimeType facts.size entry.digest).toNode) ∧
    ∀ (g : Gateway) (request : Request) (unlocked : Unlocked Index),
      g.snapshot.unlocked? = some unlocked →
      (unlocked.index.held g.engine.link).1 = .ok (.ofEntries entries) →
      AsksForFolder folder request →
      (g.serve request).1 = jsonResponse 200 (Entry.listNode listing) := by
  intro folder listing
  obtain ⟨front, split, free⟩ := last.exists_front
  obtain ⟨given, -, own⟩ := Catalog.exists_of_mem_ofEntries held
  have rooted : Index.isAbsolute folder = true := by
    refine isAbsolute_parentFolder last ?_
    rw [own]
    exact exists_absolute given.path
  have chars : folder.toList = front ++ ['/'] := toList_parentFolder split free
  refine ⟨⟨by rw [chars]; simp, ?_, ?_⟩, ?_, ?_⟩
  · rw [← String.toList_inj, String.toList_append, chars, split]
    simp
  · refine Catalog.mem_listFolder_of_name held ?_ filled free
    rw [folderLead_parentFolder split free, split]
    simp
  · exact fun g request fileId inner facts => serve_metadata_folder
  · exact fun g request unlocked known index => serve_tree known index rooted

/-- An entry of a file that lies behind two slashes. -/
def deepSample : Entry := ⟨"/docs//größe.md", false, some sampleId, none, none, none, none⟩

def deepUnlocked : Unlocked Index :=
  { unlockedSample with index := ⟨unlockedSample.key, some (.ofEntries [deepSample])⟩ }

/-- A gateway that holds an index of that file, before an origin that holds the file. -/
def deepIndexed : Gateway :=
  { indexedSample with snapshot := ⟨2, .enabled 1 (some deepUnlocked)⟩ }

theorem files_deepSample : (Catalog.ofEntries [deepSample]).files = [deepSample] :=
  Catalog.files_ofEntries (by decide +kernel) (List.pairwise_singleton _ _)

theorem isNamed_deepSample :
    IsNamed (.ofEntries [deepSample]) deepSample sampleId "docs//größe.md" where
  form := by decide +kernel
  byId := by
    rw [Catalog.byId?, files_deepSample]
    decide +kernel
  path := by decide +kernel
  other := by decide +kernel
  first := by decide +kernel
  last := by decide +kernel
  inside := by decide +kernel

/-- The folder that is told of the file ends with two slashes, and so does the request for its
listing. -/
theorem folder_lists_its_file_of_deepSample :
    let tree : Request := ⟨"GET", .here ⟨"/api/tree%2Fdocs//", none⟩, [], []⟩
    deepSample ∈ (Catalog.ofEntries [deepSample]).files ∧
      IsLastComponent deepSample.path "größe.md" ∧
      (deepIndexed.serve byIdSample).1 = jsonResponse 200
        (FileDetails.mk sampleId "/docs//" "" none none (some 65540) none).toNode ∧
      ∃ listing, (deepIndexed.serve tree).1 = jsonResponse 200 (Entry.listNode listing) ∧
        { deepSample with path := "größe.md" } ∈ listing := by
  intro tree
  have held : deepSample ∈ (Catalog.ofEntries [deepSample]).files := by
    rw [files_deepSample]
    exact List.mem_singleton_self _
  have last : IsLastComponent deepSample.path "größe.md" := by decide +kernel
  have folder : parentFolder deepSample.path = "/docs//" := by decide +kernel
  have index : (deepUnlocked.index.held deepIndexed.engine.link).1 =
      .ok (.ofEntries [deepSample]) := rfl
  have knows : deepIndexed.Knows (.ofEntries [deepSample]) sampleId
      (.ok ⟨"", none, some 65540⟩) :=
    ⟨Link.isSteady_holding _, deepUnlocked, rfl, index, facts_sample⟩
  have plain : Text.Percent.IsSpelling "docs//" "docs//" :=
    Text.Percent.isSpelling_self (by simp)
  have spells : Text.Percent.IsSpelling "%2Fdocs//" "/docs//" :=
    Text.Percent.Spells.escaped (h := 2) (l := 15) rfl rfl plain
  have asks : AsksForFolder (parentFolder deepSample.path) tree := by
    rw [folder]
    exact ⟨rfl, "%2Fdocs//", spells, by decide +kernel⟩
  obtain ⟨⟨-, -, listed⟩, told, served⟩ := folder_lists_its_file held last (by decide)
  have details := told deepIndexed byIdSample sampleId _ _ knows isNamed_deepSample
    (.byId rfl (by decide +kernel))
  rw [folder] at details
  exact ⟨held, last, details, _, served deepIndexed tree deepUnlocked rfl index asks, listed⟩

end Gateway

end SealGate
