import SealGate.Origin.Link
import SealGate.Vault.Catalog
import SealGate.Vault.StoredFile

/-! The index of a repository. The catalog is a stored object, opened with the master key; it is
fetched when a query first needs it and kept until a refresh is forced. A fetch that fails leaves
what is held. A repository without the object has no files yet. -/

namespace SealGate.Reader

open Json Vault Origin

/-- An index handle: the key it is bound to, and the catalog if it has been fetched. -/
structure Index where
  key : MasterKey
  catalog : Option Catalog

/-- An outcome with the index and the link afterwards. -/
abbrev Index.Outcome (α : Type) := Except Error α × Index × Link

namespace Index

def objectName : String := "_index"

def contentType : String := "application/json"

/-- An index handle for a key that is not empty. -/
def ofKey (key : MasterKey) : Except Error Index :=
  if key.bytes = [] then .error (.invalidRequest .emptyMasterKey) else .ok ⟨key, none⟩

/-- The catalog in a stored object. -/
def decode (data : Bytes) (key : MasterKey) : Except Error Catalog := do
  let file ← StoredFile.decode data key
  if file.info.contentType ≠ contentType then
    throw (.corrupted (.indexContentType file.info.contentType))
  match (Node.ofBytes? file.content).bind IndexFile.ofNode? with
  | none => throw (.corrupted .indexText)
  | some index => return Catalog.ofEntries index.files

/-- The catalog at the origin. -/
def fetch (index : Index) (link : Link) : Except Error Catalog × Link :=
  match link.fetch objectName none with
  | (.error .notFound, link) => (.ok .empty, link)
  | (.error error, link) => (.error error, link)
  | (.ok data, link) => (decode data index.key, link)

def refetch (index : Index) (link : Link) : Outcome Catalog :=
  match index.fetch link with
  | (.error error, link) => (.error error, index, link)
  | (.ok catalog, link) => (.ok catalog, { index with catalog := some catalog }, link)

/-- The catalog that is held, fetched if there is none. -/
def held (index : Index) (link : Link) : Outcome Catalog :=
  match index.catalog with
  | some catalog => (.ok catalog, index, link)
  | none => index.refetch link

/-- Fetches the catalog; one that is held is replaced only if `force` is set. -/
def refresh (force : Bool) (index : Index) (link : Link) : Outcome Unit :=
  let (result, index, link) := if force then index.refetch link else index.held link
  (result.map fun _ => (), index, link)

/-- An answer computed from the catalog. -/
def query {α : Type} (ask : Catalog → α) (index : Index) (link : Link) : Outcome α :=
  let (result, index, link) := index.held link
  (result.map ask, index, link)

def isAbsolute (path : String) : Bool := path.toList.head? = some '/'

/-- A path without the slashes at its end; the root stays. -/
def withoutSlash (path : String) : String :=
  if path.toList.length ≤ 1 then path else String.ofList (Text.dropTrailing '/' path.toList)

/-- The number of paths. -/
def size : Index → Link → Outcome Nat := query Catalog.size

def byPath (path : String) (index : Index) (link : Link) : Outcome (Option Entry) :=
  if isAbsolute path then index.query (·.byPath? (withoutSlash path)) link
  else (.error (.invalidRequest .relativePath), index, link)

def byId (fileId : String) : Index → Link → Outcome (Option Entry) := query (·.byId? fileId)

def listFolder (path : String) (index : Index) (link : Link) : Outcome (List Entry) :=
  if isAbsolute path then index.query (·.listFolder path) link
  else (.error (.invalidRequest .relativePath), index, link)

end Index

end SealGate.Reader
