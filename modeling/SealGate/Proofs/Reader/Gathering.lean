import SealGate.Proofs.Origin.Exchange
import SealGate.Proofs.Reader.Stores
import SealGate.Proofs.Vault.Catalog

/-! What a reader gathers. A catalog comes into an index handle, and a head into the cache, only
from an answer of the origin that opens with the key the handle is bound to or the reader is given;
what is held otherwise was held before. -/

namespace SealGate.Reader

open Http Vault Origin

/-! ### Catalogs -/

namespace Index

/-- The request for the index of a repository. -/
def request : Request := Link.objectRequest objectName none

theorem isAbsolute_absolute (path : String) : isAbsolute (absolute path) = true := by
  obtain ⟨rest, rooted⟩ := exists_absolute path
  rw [isAbsolute, rooted]
  rfl

theorem listFolder_absolute (path : String) :
    listFolder (absolute path) = query (·.listFolder (absolute path)) := by
  funext index link
  rw [listFolder, if_pos (isAbsolute_absolute path)]

/-- Between two states of a link the origin gave an object that opens to the catalog under the key,
or said that there is none. -/
def Fetched (before after : Link) (key : MasterKey) (catalog : Catalog) : Prop :=
  ∃ response, before.Answered after request response ∧
    (response.status = 404 ∧ catalog = .empty ∨
      ∃ data, Holds response data ∧ decode data key = .ok catalog)

theorem Fetched.widen {first before after last : Link} {key : MasterKey} {catalog : Catalog}
    (fetched : Fetched before after key catalog) (early : first.Grows before)
    (late : after.Grows last) : Fetched first last key catalog := by
  obtain ⟨response, answered, given⟩ := fetched
  exact ⟨response, answered.widen early late, given⟩

theorem fetch_link (index : Index) (link : Link) :
    (index.fetch link).2 = (link.fetch objectName none).2 := by
  unfold fetch
  split
  · rename_i got
    rw [got]
  · rename_i got
    rw [got]
  · rename_i got
    rw [got]

theorem fetched_of_fetch {index : Index} {link later : Link} {catalog : Catalog}
    (h : index.fetch link = (.ok catalog, later)) : Fetched link later index.key catalog := by
  unfold fetch at h
  split at h
  · rename_i got
    obtain ⟨none, rfl⟩ := Prod.mk.inj h
    obtain ⟨response, answered, missing⟩ := Link.missing_of_fetch got
    exact ⟨response, answered, .inl ⟨missing, (Except.ok.inj none).symm⟩⟩
  · cases h
  · rename_i got
    obtain ⟨decoded, rfl⟩ := Prod.mk.inj h
    obtain ⟨response, answered, held⟩ := Link.holds_of_fetch got
    exact ⟨response, answered, .inr ⟨_, held, decoded⟩⟩

/-- A query leaves the handle as it is, or puts a catalog into it that it has fetched. -/
structure Keeps {α : Type} (index : Index) (link : Link) (outcome : Outcome α) : Prop where
  grows : link.Grows outcome.2.2
  held : outcome.2.1 = index ∨ ∃ catalog, outcome.2.1 = { index with catalog := some catalog } ∧
    Fetched link outcome.2.2 index.key catalog

variable (index : Index) (link : Link)

theorem refetch_keeps : Keeps index link (index.refetch link) := by
  have grows : link.Grows (index.fetch link).2 := by
    rw [fetch_link]
    exact Link.fetch_grows objectName none link
  unfold refetch
  rcases got : index.fetch link with ⟨error | catalog, after⟩ <;> rw [got] at grows
  · exact ⟨grows, .inl rfl⟩
  · exact ⟨grows, .inr ⟨catalog, rfl, fetched_of_fetch got⟩⟩

theorem held_keeps : Keeps index link (index.held link) := by
  unfold held
  split
  · exact ⟨.refl link, .inl rfl⟩
  · exact index.refetch_keeps link

/-- An index handle holds the catalog that it has given. -/
theorem held_index {catalog : Catalog} (held : (index.held link).1 = .ok catalog) :
    (index.held link).2.1 = { index with catalog := some catalog } := by
  obtain ⟨key, own⟩ := index
  cases own with
  | some own =>
    obtain rfl := Except.ok.inj held
    rfl
  | none =>
    simp only [Index.held, refetch] at held ⊢
    rcases given : fetch ⟨key, none⟩ link with ⟨error | fetched, later⟩ <;> rw [given] at held
    · cases held
    · obtain rfl := Except.ok.inj held
      rfl

theorem query_keeps {α : Type} (ask : Catalog → α) : Keeps index link (index.query ask link) :=
  ⟨(index.held_keeps link).grows, (index.held_keeps link).held⟩

theorem listFolder_keeps (path : String) : Keeps index link (index.listFolder path link) := by
  unfold listFolder
  split
  · exact index.query_keeps link _
  · exact ⟨.refl link, .inl rfl⟩

end Index

/-! ### Heads -/

/-- Between two states of a link the origin gave the start of an object, and the head opens from it
with the key. -/
def Peeked (before after : Link) (key : MasterKey) (fileId : String) (head : Head) : Prop :=
  ∃ response data fileKey, before.Answered after (peek fileId) response ∧ Holds response data ∧
    Head.decode data key = .ok (head, fileKey)

theorem Peeked.widen {first before after last : Link} {key : MasterKey} {fileId : String}
    {head : Head} (peeked : Peeked before after key fileId head) (early : first.Grows before)
    (late : after.Grows last) : Peeked first last key fileId head := by
  obtain ⟨response, data, fileKey, answered, given⟩ := peeked
  exact ⟨response, data, fileKey, answered.widen early late, given⟩

/-- Every head that is held afterwards was held before or was peeked at with the key. -/
structure Gathers (key : MasterKey) (before after : Reader) : Prop where
  grows : before.link.Grows after.link
  heads : ∀ entry ∈ after.heads.entries, entry ∈ before.heads.entries ∨
    Peeked before.link after.link key entry.1 entry.2

section Gathers

variable (key : MasterKey) (fileId : String) (reader : Reader)

theorem head_gathers : Gathers key reader (reader.head key fileId).2 := by
  unfold Reader.head
  rcases got : reader.heads.get fileId with ⟨held | held, moved⟩
  · have grows := Link.fetch_grows fileId (some headRange) reader.link
    rcases fetched : reader.link.fetch fileId (some headRange) with ⟨error | data, link⟩ <;>
      rw [fetched] at grows
    · exact ⟨grows, fun entry mem => .inl mem⟩
    simp only [Except.bind]
    cases opened : Head.decode data key with
    | error error => exact ⟨grows, fun entry mem => .inl mem⟩
    | ok pair =>
      refine ⟨grows, fun entry mem => ?_⟩
      rcases reader.heads.mem_of_mem_put mem with rfl | before
      · obtain ⟨response, answered, holds⟩ := Link.holds_of_fetch fetched
        exact .inr ⟨response, data, pair.2, answered, holds, opened⟩
      · exact .inl before
  · refine ⟨.refl reader.link, fun entry mem => ?_⟩
    have within : entry ∈ (reader.heads.get fileId).2.entries := by
      rw [got]
      exact mem
    exact .inl (reader.heads.mem_of_mem_get within)

theorem Gathers.withLink {key : MasterKey} {before after : Reader}
    (gathers : Gathers key before after) {link : Link} (grows : after.link.Grows link) :
    Gathers key before { after with link := link } where
  grows := gathers.grows.trans grows
  heads := by
    intro entry mem
    exact (gathers.heads entry mem).imp_right fun peeked => peeked.widen (.refl _) grows

theorem facts_gathers : Gathers key reader (reader.facts key fileId).2 :=
  head_gathers key fileId reader

theorem readFile_gathers (range : Option ByteRange) :
    Gathers key reader (reader.readFile key fileId range).2 := by
  have gathers := head_gathers key fileId reader
  obtain same | ⟨head, fileKey, after, found, read⟩ := readFile_snd reader key fileId range
  · rw [same]
    exact gathers
  · rw [found] at gathers
    rw [read]
    exact gathers.withLink (Link.stream_grows _ _ _)

theorem decrypt_gathers (request : Request) :
    Gathers key reader (reader.decrypt key request).2 := by
  obtain ⟨fault, failed⟩ | ⟨fileId, range, -, -, read⟩ := decrypt_cases reader key request
  · rw [failed]
    exact ⟨.refl reader.link, fun entry mem => .inl mem⟩
  · rw [read]
    exact readFile_gathers key fileId reader range

end Gathers

end SealGate.Reader
