import SealGate.Text.Split
import SealGate.Vault.Entry

/-! The catalog: the entries of an index by path. Paths are absolute, and of several entries with
one path the first is kept. A folder lists its sub-folders, named by the paths below them, before
its files; both are ordered by name. -/

namespace SealGate.Vault

open Text

/-- A path made absolute. -/
def absolute (path : String) : String :=
  match path.toList with
  | '/' :: _ => path
  | _ => "/" ++ path

/-- Entries in the order of their paths; entries with one path stay in their order. -/
def sortByPath (entries : List Entry) : List Entry :=
  entries.mergeSort fun a b => decide (a.path ≤ b.path)

/-- Of neighbours with one path, the first. -/
def dropRepeated : List Entry → List Entry
  | [] => []
  | entry :: rest =>
    match dropRepeated rest with
    | [] => [entry]
    | next :: behind => if entry.path = next.path then entry :: behind else entry :: next :: behind

/-- The entry with a path, found by halving entries that are in the order of their paths. -/
def search? (path : String) (entries : List Entry) : Option Entry :=
  match split : entries.drop (entries.length / 2) with
  | [] => none
  | middle :: behind =>
    if path < middle.path then search? path (entries.take (entries.length / 2))
    else if middle.path = path then some middle
    else search? path behind
termination_by entries.length
decreasing_by
  all_goals
    have lengths := congrArg List.length split
    simp only [List.length_drop, List.length_cons, List.length_take] at lengths ⊢
    omega

/-- Puts a name into an ordered list of names, unless it is there. -/
def insertName (name : String) : List String → List String
  | [] => [name]
  | n :: names =>
    if name = n then n :: names
    else if name < n then name :: n :: names
    else n :: insertName name names

structure Catalog where
  files : List Entry
  deriving DecidableEq

namespace Catalog

def empty : Catalog := ⟨[]⟩

def ofEntries (entries : List Entry) : Catalog :=
  ⟨dropRepeated (sortByPath (entries.map fun entry => { entry with path := absolute entry.path }))⟩

def size (catalog : Catalog) : Nat := catalog.files.length

def byPath? (catalog : Catalog) (path : String) : Option Entry :=
  search? path catalog.files

/-- Of the entries with a file id, the one with the greatest path. -/
def byId? (catalog : Catalog) (fileId : String) : Option Entry :=
  catalog.files.reverse.find? fun entry => entry.fileId = some fileId

/-- The start of the paths below a folder. -/
def folderLead (folder : String) : List Char :=
  if folder.toList.getLast? = some '/' then folder.toList else folder.toList ++ ['/']

/-- What an entry contributes to the listing of a folder. -/
inductive Child
  | folder (name : String)
  | file (entry : Entry)

/-- The child of the folder with the given lead that an entry names or lies in. -/
def child? (lead : List Char) (entry : Entry) : Option Child :=
  match after? lead entry.path.toList with
  | none => none
  | some rest =>
    match splitFirst '/' rest with
    | some (name, _) => if name = [] then none else some (.folder (String.ofList name))
    | none => if rest = [] then none else some (.file { entry with path := String.ofList rest })

def Child.folder? : Child → Option String
  | .folder name => some name
  | .file _ => none

def Child.file? : Child → Option Entry
  | .folder _ => none
  | .file entry => some entry

/-- The direct children of a folder, by their names in it. -/
def listFolder (catalog : Catalog) (folder : String) : List Entry :=
  let children := catalog.files.filterMap (child? (folderLead folder))
  let folders :=
    (children.filterMap Child.folder?).foldl (fun names name => insertName name names) []
  folders.map Entry.directory ++ sortByPath (children.filterMap Child.file?)

end Catalog

end SealGate.Vault
