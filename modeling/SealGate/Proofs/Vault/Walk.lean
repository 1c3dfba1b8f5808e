import Mathlib.Algebra.Order.BigOperators.Group.List
import Mathlib.Data.Nat.Basic
import SealGate.Proofs.Json.Records
import SealGate.Proofs.Vault.Catalog

/-! Walking a catalog: a folder is listed, its files are yielded under their whole paths, and its
sub-folders are walked. A listing does not say how deep the folders go, but every sub-folder makes
the start of the paths below it longer, so a walk ends below the longest path. It yields each entry
whose path has no empty component, once: such an entry is shown by one child of each folder above
it, as a file of the last of them. -/

namespace SealGate

namespace Text

variable {isMark : Char → Bool} {before behind : List Char}

theorem pieces_free (free : ∀ c ∈ before, isMark c = false) : pieces isMark before = [before] := by
  induction before with
  | nil => rfl
  | cons c before ih =>
    rw [pieces, ih fun other mem => free other (List.mem_cons_of_mem _ mem)]
    simp [free c List.mem_cons_self]

theorem pieces_append {mark : Char} (marks : isMark mark = true)
    (free : ∀ c ∈ before, isMark c = false) :
    pieces isMark (before ++ mark :: behind) = before :: pieces isMark behind := by
  induction before with
  | nil => simp [pieces, marks]
  | cons c before ih =>
    rw [List.cons_append, pieces, ih fun other mem => free other (List.mem_cons_of_mem _ mem)]
    simp [free c List.mem_cons_self]

theorem exists_pieces (isMark : Char → Bool) (text : List Char) :
    ∃ first others, pieces isMark text = first :: others := by
  cases text with
  | nil => exact ⟨_, _, rfl⟩
  | cons c text =>
    rw [pieces]
    split
    · exact ⟨_, _, rfl⟩
    · split <;> exact ⟨_, _, rfl⟩

theorem pieces_cons {c mark : Char} {text first : List Char} {others : List (List Char)}
    (split : pieces (· == mark) text = first :: others) :
    pieces (· == mark) (c :: text) =
      if c = mark then [] :: first :: others else (c :: first) :: others := by
  rw [pieces, split]
  by_cases marks : c = mark <;> simp [marks]

theorem first_piece_eq_nil_iff {mark : Char} {text first : List Char} {others : List (List Char)}
    (split : pieces (· == mark) text = first :: others) :
    first = [] ↔ text = [] ∨ [mark] <+: text := by
  cases text with
  | nil =>
    obtain ⟨rfl, -⟩ := List.cons.inj split
    simp
  | cons c text =>
    obtain ⟨inner, behind, rest⟩ := exists_pieces (· == mark) text
    rw [pieces_cons rest] at split
    by_cases marks : c = mark
    · rw [if_pos marks] at split
      obtain ⟨rfl, -⟩ := List.cons.inj split
      simp [marks]
    · rw [if_neg marks] at split
      obtain ⟨rfl, -⟩ := List.cons.inj split
      simp [Ne.symm marks]

/-- Behind the first mark no piece is empty if and only if no two marks stand together and none at the
end. -/
theorem tail_pieces_iff {mark : Char} (text : List Char) :
    (∀ piece ∈ (pieces (· == mark) text).tail, piece ≠ []) ↔
      ¬ [mark, mark] <:+: text ∧ ¬ [mark] <:+ text := by
  induction text with
  | nil => simp [pieces]
  | cons c text ih =>
    obtain ⟨first, others, split⟩ := exists_pieces (· == mark) text
    rw [split, List.tail_cons] at ih
    rw [pieces_cons split, List.infix_cons_iff, List.suffix_cons_iff]
    by_cases marks : c = mark
    · rw [if_pos marks, List.tail_cons, List.forall_mem_cons, ne_eq,
        first_piece_eq_nil_iff split, ih, marks, List.cons_prefix_cons, List.cons.injEq]
      simp only [true_and, eq_comm]
      tauto
    · rw [if_neg marks, List.tail_cons, ih]
      simp [Ne.symm marks]

end Text

namespace Vault

open Text

/-! ### Components of paths -/

/-- The components of a path, each behind a slash. -/
def components (path : String) : List (List Char) := (pieces (· == '/') path.toList).tail

/-- No component of a path is empty. -/
def HasNames (path : String) : Prop := ∀ name ∈ components path, name ≠ []

instance (path : String) : Decidable (HasNames path) :=
  inferInstanceAs (Decidable (∀ name ∈ components path, name ≠ []))

/-- The paths that have names are those without two slashes together and without one at the end. -/
theorem hasNames_iff (path : String) :
    HasNames path ↔ ¬ ['/', '/'] <:+: path.toList ∧ ¬ ['/'] <:+ path.toList :=
  tail_pieces_iff path.toList

example : HasNames "/docs/deep/two.md" ∧ ¬ HasNames "/docs//three.md" ∧ ¬ HasNames "/docs/" := by
  decide

/-- The text behind the lead of a folder consists of names. -/
def Below (lead : List Char) (entry : Entry) : Prop :=
  ∃ rest, entry.path.toList = lead ++ rest ∧ ∀ name ∈ pieces (· == '/') rest, name ≠ []

variable {lead : List Char} {entry : Entry}

theorem below_root_iff (absolute : ∃ rest, entry.path.toList = '/' :: rest) :
    Below ['/'] entry ↔ HasNames entry.path := by
  obtain ⟨rest, rooted⟩ := absolute
  have split : components entry.path = pieces (· == '/') rest := by
    rw [components, rooted, pieces]
    rfl
  rw [HasNames, split]
  constructor
  · rintro ⟨other, path, named⟩
    rw [rooted] at path
    obtain rfl : rest = other := by simpa using path
    exact named
  · intro named
    exact ⟨rest, rooted, named⟩

theorem not_slash {name : List Char} (free : '/' ∉ name) : ∀ c ∈ name, (c == '/') = false := by
  intro c mem
  rw [beq_eq_false_iff_ne]
  rintro rfl
  exact free mem

namespace Catalog

/-- What is below a folder is one of its files or below one of its sub-folders. -/
theorem below_iff : Below lead entry ↔
    (∃ file, child? lead entry = some (.file file)) ∨
      ∃ name, child? lead entry = some (.folder name) ∧
        Below (lead ++ (name.toList ++ ['/'])) entry := by
  constructor
  · rintro ⟨rest, path, named⟩
    cases split : splitFirst '/' rest with
    | none =>
      have free := splitFirst_eq_none_iff.1 split
      rw [pieces_free (not_slash free)] at named
      exact .inl ⟨_, child?_eq_file_iff.2 ⟨rest, path, named rest (by simp), free, rfl⟩⟩
    | some parts =>
      obtain ⟨before, behind⟩ := parts
      obtain ⟨rfl, free⟩ := splitFirst_eq_some_iff.1 split
      rw [pieces_append rfl (not_slash free)] at named
      have shown : child? lead entry = some (.folder (String.ofList before)) :=
        child?_eq_folder_iff.2 ⟨by simpa using named before (by simp), by simpa using free, behind,
          by simpa using path⟩
      refine .inr ⟨_, shown, behind, by simpa using path, ?_⟩
      exact fun name mem => named name (List.mem_cons_of_mem _ mem)
  · rintro (⟨file, shown⟩ | ⟨name, shown, rest, path, named⟩)
    · obtain ⟨rest, path, filled, free, -⟩ := child?_eq_file_iff.1 shown
      refine ⟨rest, path, ?_⟩
      rw [pieces_free (not_slash free)]
      simpa using filled
    · obtain ⟨filled, free, -⟩ := child?_eq_folder_iff.1 shown
      refine ⟨name.toList ++ '/' :: rest, by simpa using path, ?_⟩
      rw [pieces_append rfl (not_slash free)]
      exact List.forall_mem_cons.2 ⟨filled, named⟩

/-! ### Walking -/

/-- The path of a child in a folder. -/
def within (folder name : String) : String := String.ofList (folderLead folder ++ name.toList)

theorem folderLead_within {folder name : String} (filled : name.toList ≠ [])
    (free : '/' ∉ name.toList) :
    folderLead (within folder name) = folderLead folder ++ (name.toList ++ ['/']) := by
  have last : (folderLead folder ++ name.toList).getLast? ≠ some '/' := by
    rw [List.getLast?_append_of_ne_nil _ filled]
    exact fun slash => free (List.mem_of_getLast? slash)
  rw [within, folderLead, String.toList_ofList, if_neg last, List.append_assoc]

/-- The files that a walk of a folder yields, under their whole paths, if it has to go no deeper
than allowed. -/
def walk? (catalog : Catalog) : (depth : Nat) → (folder : String) → Option (List Entry)
  | 0, _ => none
  | depth + 1, folder =>
    ((catalog.listFolder folder).mapM fun (child : Entry) =>
      if child.isDir then walk? catalog depth (within folder child.path)
      else some [{ child with path := within folder child.path }]).map List.flatten

/-- The walk of a folder ends, and yields this. -/
def Walks (catalog : Catalog) (folder : String) (found : List Entry) : Prop :=
  ∃ enough, ∀ depth, enough ≤ depth → catalog.walk? depth folder = some found

/-- Entries of a list that are chosen, each once. -/
structure Selects (entries : List Entry) (chosen : Entry → Prop) (found : List Entry) : Prop where
  nodup : found.Nodup
  mem_iff : ∀ entry, entry ∈ found ↔ entry ∈ entries ∧ chosen entry

section Selects

variable {entries found : List Entry} {chosen other : Entry → Prop}

theorem Selects.congr (selects : Selects entries chosen found)
    (same : ∀ entry ∈ entries, chosen entry ↔ other entry) : Selects entries other found := by
  refine ⟨selects.nodup, fun entry => ?_⟩
  rw [selects.mem_iff]
  exact and_congr_right fun held => same entry held

theorem Selects.perm [DecidablePred chosen] (selects : Selects entries chosen found)
    (distinct : entries.Nodup) : found.Perm (entries.filter chosen) := by
  refine (List.perm_ext_iff_of_nodup selects.nodup (distinct.filter _)).2 fun entry => ?_
  rw [selects.mem_iff, List.mem_filter, decide_eq_true_iff]

/-- What is chosen for each of some keys makes up all that is chosen, if all has one of the keys. -/
theorem Selects.flatMap {keys : List Entry} {key? : Entry → Option Entry}
    {part : Entry → List Entry} (distinct : keys.Nodup)
    (parts : ∀ key ∈ keys,
      Selects entries (fun entry => chosen entry ∧ key? entry = some key) (part key))
    (keyed : ∀ entry ∈ entries, chosen entry → ∃ key ∈ keys, key? entry = some key) :
    Selects entries chosen (keys.flatMap part) where
  nodup := by
    refine List.nodup_flatMap.2 ⟨fun key mem => (parts key mem).nodup, ?_⟩
    refine distinct.imp_of_mem fun {one two} mem mem' different entry held held' => different ?_
    have first := (((parts one mem).mem_iff entry).1 held).2.2
    have second := (((parts two mem').mem_iff entry).1 held').2.2
    exact Option.some.inj (first.symm.trans second)
  mem_iff entry := by
    rw [List.mem_flatMap]
    constructor
    · rintro ⟨key, mem, held⟩
      obtain ⟨given, wanted, -⟩ := ((parts key mem).mem_iff entry).1 held
      exact ⟨given, wanted⟩
    · rintro ⟨given, wanted⟩
      obtain ⟨key, mem, own⟩ := keyed entry given wanted
      exact ⟨key, mem, ((parts key mem).mem_iff entry).2 ⟨given, wanted, own⟩⟩

end Selects

/-! ### What a walk yields -/

variable {catalog : Catalog} {folder : String}

theorem shown?_eq_directory_iff {name : String} (plain : entry.isDir = false) :
    shown? lead entry = some (Entry.directory name) ↔ child? lead entry = some (.folder name) := by
  rw [shown?, Option.map_eq_some_iff]
  constructor
  · rintro ⟨child, shown, same⟩
    cases child with
    | folder other =>
      obtain rfl : other = name := congrArg Entry.path same
      exact shown
    | file file =>
      have isDir := isDir_of_file shown
      rw [plain, show file = Entry.directory name from same] at isDir
      cases isDir
  · exact fun shown => ⟨_, shown, rfl⟩

theorem shown?_eq_file_iff {file : Entry} (plain : file.isDir = false) :
    shown? lead entry = some file ↔ child? lead entry = some (.file file) := by
  rw [shown?, Option.map_eq_some_iff]
  constructor
  · rintro ⟨child, shown, rfl⟩
    cases child with
    | folder name => cases plain
    | file file => exact shown
  · exact fun shown => ⟨_, shown, rfl⟩

/-- The entries below a sub-folder are those below the folder for which it shows the sub-folder. -/
theorem below_folder_iff {name : String} (filled : name.toList ≠ []) (free : '/' ∉ name.toList)
    (plain : entry.isDir = false) :
    Below (lead ++ (name.toList ++ ['/'])) entry ↔
      Below lead entry ∧ shown? lead entry = some (Entry.directory name) := by
  rw [shown?_eq_directory_iff plain]
  constructor
  · intro below
    obtain ⟨rest, path, -⟩ := id below
    have shown : child? lead entry = some (.folder name) :=
      child?_eq_folder_iff.2 ⟨filled, free, rest, by simpa using path⟩
    exact ⟨below_iff.2 (.inr ⟨name, shown, below⟩), shown⟩
  · rintro ⟨below, shown⟩
    rcases below_iff.1 below with ⟨file, shown'⟩ | ⟨other, shown', deeper⟩
    · rw [shown] at shown'
      cases shown'
    · rw [shown] at shown'
      cases shown'
      exact deeper

/-- A file is all that is below the folder and shown as that file. -/
theorem selects_file (plain : ∀ entry ∈ catalog.files, entry.isDir = false)
    (held : entry ∈ catalog.files) {file : Entry} (shown : child? lead entry = some (.file file)) :
    Selects catalog.files (fun other => Below lead other ∧ shown? lead other = some file)
      [entry] := by
  have isDir : file.isDir = false := (isDir_of_file shown).trans (plain entry held)
  refine ⟨List.nodup_singleton entry, fun other => ?_⟩
  rw [List.mem_singleton, shown?_eq_file_iff isDir]
  constructor
  · rintro rfl
    exact ⟨held, below_iff.2 (.inl ⟨file, shown⟩), shown⟩
  · rintro ⟨-, -, again⟩
    exact (rejoined again).symm.trans (rejoined shown)

theorem exists_shown_of_below (held : entry ∈ catalog.files)
    (below : Below (folderLead folder) entry) :
    ∃ child ∈ catalog.listFolder folder, shown? (folderLead folder) entry = some child := by
  have child : ∃ child, shown? (folderLead folder) entry = some child := by
    rcases below_iff.1 below with ⟨file, shown⟩ | ⟨name, shown, -⟩
    · exact ⟨_, congrArg (Option.map Child.entry) shown⟩
    · exact ⟨_, congrArg (Option.map Child.entry) shown⟩
  obtain ⟨child, shown⟩ := child
  exact ⟨child, mem_listFolder.2 ⟨entry, held, shown⟩, shown⟩

/-- The lead of a sub-folder is longer by a name and a slash, at least, so less is left behind it. -/
theorem room_in_folder {name : String} {room : Nat} (held : entry ∈ catalog.files)
    (shown : child? (folderLead folder) entry = some (.folder name))
    (short : ∀ entry ∈ catalog.files, entry.path.length ≤ (folderLead folder).length + room) :
    2 ≤ room ∧ ∀ entry ∈ catalog.files,
      entry.path.length ≤ (folderLead (within folder name)).length + (room - 2) := by
  obtain ⟨filled, free, behind, path⟩ := child?_eq_folder_iff.1 shown
  have named : 0 < name.toList.length := List.length_pos_iff.2 filled
  have longer : (folderLead (within folder name)).length =
      (folderLead folder).length + (name.toList.length + 1) := by
    rw [folderLead_within filled free]
    simp
  have deep : 2 ≤ room := by
    have bound := short entry held
    rw [← String.length_toList, path] at bound
    simp only [List.length_append, List.length_cons] at bound
    omega
  refine ⟨deep, fun entry held => ?_⟩
  have bound := short entry held
  omega

/-- A walk ends as soon as it may go deeper than any path is longer than the lead of its folder. -/
theorem walk?_selects (distinct : catalog.files.Nodup)
    (plain : ∀ entry ∈ catalog.files, entry.isDir = false) {room : Nat}
    (short : ∀ entry ∈ catalog.files, entry.path.length ≤ (folderLead folder).length + room) :
    ∃ found, (∀ depth, room < depth → catalog.walk? depth folder = some found) ∧
      Selects catalog.files (Below (folderLead folder)) found := by
  induction room using Nat.strongRecOn generalizing folder with
  | ind room ih =>
    have each : ∀ child ∈ catalog.listFolder folder, ∃ part,
        (∀ depth, room ≤ depth →
          (if child.isDir then catalog.walk? depth (within folder child.path)
            else some [{ child with path := within folder child.path }]) = some part) ∧
        Selects catalog.files (fun entry => Below (folderLead folder) entry ∧
          shown? (folderLead folder) entry = some child) part := by
      intro child mem
      obtain ⟨entry, held, kind⟩ := mem_listFolder.1 mem
      rw [shown?, Option.map_eq_some_iff] at kind
      obtain ⟨kind, shown, rfl⟩ := kind
      cases kind with
      | file file =>
        have isDir : file.isDir = false := (isDir_of_file shown).trans (plain entry held)
        refine ⟨[entry], fun depth _ => ?_, selects_file plain held shown⟩
        rw [if_neg (by simp [Child.entry, isDir])]
        exact congrArg (fun entry => some [entry]) (rejoined shown)
      | folder name =>
        obtain ⟨deep, below⟩ := room_in_folder held shown short
        obtain ⟨part, visits, selects⟩ := ih (room - 2) (by omega) below
        refine ⟨part, fun depth enough => visits depth (by omega), selects.congr ?_⟩
        intro entry held
        obtain ⟨filled, free, -⟩ := child?_eq_folder_iff.1 shown
        rw [folderLead_within filled free]
        exact below_folder_iff filled free (plain entry held)
    choose! part visits selects using each
    refine ⟨(catalog.listFolder folder).flatMap part, ?_, ?_⟩
    · intro depth deep
      obtain ⟨depth, rfl⟩ : ∃ n, depth = n + 1 := ⟨depth - 1, by omega⟩
      rw [walk?, Json.mapM_of_each fun child mem => visits child mem depth (by omega)]
      rfl
    · exact Selects.flatMap (nodup_listFolder distinct plain) selects fun entry held below =>
        exists_shown_of_below held below

/-- The walk from the root ends, and yields the entries whose paths have names, each once and as it
stands in the catalog. -/
theorem walk_finds_each_once (entries : List Entry)
    (plain : ∀ entry ∈ entries, entry.isDir = false) :
    ∃ found, (ofEntries entries).Walks "/" found ∧
      found.Perm ((ofEntries entries).files.filter fun entry => HasNames entry.path) ∧
      (found.map Entry.path).Nodup := by
  have paths := nodup_paths_ofEntries entries
  have distinct : (ofEntries entries).files.Nodup := paths.of_map _
  have files : ∀ entry ∈ (ofEntries entries).files, entry.isDir = false := by
    intro entry mem
    obtain ⟨given, held, rfl⟩ := exists_of_mem_ofEntries mem
    exact plain given held
  have short : ∀ entry ∈ (ofEntries entries).files, entry.path.length ≤
      (folderLead "/").length +
        ((ofEntries entries).files.map fun file => file.path.length).sum := by
    intro entry mem
    have bound := List.single_le_sum (by simp) _
      (List.mem_map_of_mem (f := fun file : Entry => file.path.length) mem)
    omega
  obtain ⟨found, ends, selects⟩ := walk?_selects distinct files short
  have named : Selects (ofEntries entries).files (fun entry => HasNames entry.path) found := by
    refine selects.congr fun entry mem => ?_
    obtain ⟨given, -, rfl⟩ := exists_of_mem_ofEntries mem
    exact below_root_iff (exists_absolute given.path)
  have perm := named.perm distinct
  refine ⟨found, ⟨_, fun depth enough => ends depth enough⟩, perm, ?_⟩
  exact (perm.map Entry.path).nodup_iff.2 (paths.sublist (List.filter_sublist.map Entry.path))

/-- Files in folders, one of them behind two slashes. -/
def sampleFiles : List Entry :=
  ["/b.txt", "/docs/deep/two.md", "photos/cat.jpg", "/docs//three.md"].map fun path =>
    ⟨path, false, some path, none, none, some 3, none⟩

theorem walk_finds_each_once_of_sampleFiles :
    (∀ entry ∈ sampleFiles, entry.isDir = false) ∧
    ∃ found, (ofEntries sampleFiles).Walks "/" found ∧
      found.Perm ((ofEntries sampleFiles).files.filter fun entry => HasNames entry.path) ∧
      (found.map Entry.path).Nodup := by
  have plain : ∀ entry ∈ sampleFiles, entry.isDir = false := by decide
  exact ⟨plain, walk_finds_each_once sampleFiles plain⟩

end Catalog

end Vault

end SealGate
