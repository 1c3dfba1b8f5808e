import SealGate.Proofs.Gateway.Routes
import SealGate.Proofs.Gateway.Run
import SealGate.Proofs.Reader.Transparency
import SealGate.Proofs.Text.Percent
import SealGate.Proofs.Vault.Lookup

/-! What is told of one file. It can be asked for by its file id and by its path, and the path can
be written in many ways. All these requests find one entry of the catalog, and the first of them
leaves the index and the cache so that the others find it again; before a steady origin they are
therefore all answered alike, in any order and with whatever is in the cache. -/

namespace SealGate

open Http Session Vault Origin Reader Outcome

namespace Reader

/-! ### The form of a file id -/

theorem afterHex?_eq_some {n : Nat} {text rest : List Char}
    (h : afterHex? n text = some rest) :
    ∃ digits, text = digits ++ rest ∧ ∀ c ∈ digits, isHexDigit c = true := by
  fun_induction afterHex? n text with
  | case1 text =>
    cases h
    exact ⟨[], rfl, by simp⟩
  | case2 n c text digit ih =>
    obtain ⟨digits, rfl, all⟩ := ih h
    exact ⟨c :: digits, rfl, by simpa [digit] using all⟩
  | case3 => cases h
  | case4 => cases h

theorem mem_of_isGroups {groups : List Nat} {text : List Char} (form : isGroups groups text = true)
    {c : Char} (mem : c ∈ text) : isHexDigit c = true ∨ c = '-' := by
  fun_induction isGroups groups text with
  | case1 text =>
    rw [List.isEmpty_iff.1 form] at mem
    cases mem
  | case2 n text =>
    obtain ⟨digits, rfl, all⟩ := afterHex?_eq_some (by simpa using form)
    exact .inl (all c (by simpa using mem))
  | case3 text n groups _ rest first ih =>
    obtain ⟨digits, rfl, all⟩ := afterHex?_eq_some first
    rcases List.mem_append.1 mem with among | behind
    · exact .inl (all c among)
    · rcases List.mem_cons.1 behind with rfl | behind
      · exact .inr rfl
      · exact ih form behind
  | case4 => cases form

theorem isHexDigit_bounds {c : Char} (digit : isHexDigit c = true) :
    c.toNat ≤ 127 ∧ c ≠ '%' := by
  have number : c.toNat ≤ 127 ∧ c.toNat ≠ 37 := by
    simp only [isHexDigit, Text.Hex.digitValue?] at digit
    split_ifs at digit <;> first | omega | cases digit
  refine ⟨number.1, ?_⟩
  rintro rfl
  exact number.2 rfl

/-- A file id has no characters that are written with escapes. -/
theorem isSpelling_of_isFileId {fileId : String} (form : isFileId fileId.toList = true) :
    Text.Percent.IsSpelling fileId fileId := by
  refine Text.Percent.isSpelling_self fun c mem => ?_
  rcases mem_of_isGroups form mem with digit | rfl
  · exact isHexDigit_bounds digit
  · decide

end Reader

namespace Gateway

/-! ### The rest of a path -/

section Rest

variable {request : Request} {lead rest : String}

theorem pathAfter_of_path (path : request.path = lead ++ rest) :
    pathAfter request lead = (Text.Percent.decode? rest).elim (.error .invalidPath) .ok := by
  have behind : Text.after? lead.toList request.path.toList = some rest.toList := by
    rw [path, String.toList_append, Text.after?_append]
  simp only [pathAfter, behind, String.ofList_toList]
  cases Text.Percent.decode? rest <;> rfl

theorem pathAfter_of_spelling {spelling text : String}
    (spells : Text.Percent.IsSpelling spelling text) (path : request.path = lead ++ spelling) :
    pathAfter request lead = .ok text := by
  rw [pathAfter_of_path path, spells.decode?_eq, Option.elim_some]

end Rest

/-! ### One entry, two names -/

/-- An entry with its file id and with its path behind the root, which is no file id itself and has
no slash at either end. -/
structure IsNamed (catalog : Catalog) (entry : Entry) (fileId inner : String) : Prop where
  form : isFileId fileId.toList = true
  byId : catalog.byId? fileId = some entry
  path : entry.path = "/" ++ inner
  other : isFileId inner.toList = false
  first : inner.toList.head? ≠ some '/'
  last : inner.toList.getLast? ≠ some '/'
  inside : inner ≠ ""

/-- A request for what is known of a file: by its id, or by its path in one of its spellings. -/
inductive AsksFor (fileId inner : String) (request : Request) : Prop
  | byId : request.method = "GET" → request.path = "/api/metadata/" ++ fileId →
      AsksFor fileId inner request
  | byPath (spelling : String) : Text.Percent.IsSpelling spelling inner →
      request.method = "GET" → request.path = "/api/metadata/" ++ spelling →
      AsksFor fileId inner request

theorem absolute_of_inner {inner : String} (first : inner.toList.head? ≠ some '/') :
    absolute inner = "/" ++ inner := by
  unfold absolute
  split
  · rename_i starts
    rw [starts] at first
    exact absurd rfl first
  · rfl

theorem dropTrailing_of_last {mark : Char} {text : List Char}
    (last : text.getLast? ≠ some mark) : Text.dropTrailing mark text = text := by
  rw [Text.dropTrailing]
  cases reversed : text.reverse with
  | nil => simp [List.reverse_eq_nil_iff.1 reversed]
  | cons c rest =>
    have other : c ≠ mark := by
      rintro rfl
      rw [← List.head?_reverse, reversed] at last
      exact last rfl
    rw [List.dropWhile_cons_of_neg (by simpa using other), ← reversed, List.reverse_reverse]

/-- A path with no slash at its end is looked up as it is. -/
theorem withoutSlash_of_inner {inner : String} (inside : inner ≠ "")
    (last : inner.toList.getLast? ≠ some '/') :
    Index.withoutSlash ("/" ++ inner) = "/" ++ inner := by
  have chars : ("/" ++ inner).toList = '/' :: inner.toList := by simp
  have held : inner.toList ≠ [] := by simpa using inside
  rw [Index.withoutSlash, chars]
  split
  · rfl
  · rw [dropTrailing_of_last, ← chars, String.ofList_toList]
    rwa [List.getLast?_cons_of_ne_nil held]

section Named

variable {entries : List Entry} {entry : Entry} {fileId inner : String}

theorem IsNamed.fileId_eq (named : IsNamed (.ofEntries entries) entry fileId inner) :
    entry.fileId = some fileId :=
  ((Catalog.byId?_eq_some_iff (Catalog.pairwise_ofEntries entries)).1 named.byId).2.1

theorem IsNamed.byPath (named : IsNamed (.ofEntries entries) entry fileId inner) :
    (Catalog.ofEntries entries).byPath? ("/" ++ inner) = some entry := by
  have strict := Catalog.pairwise_ofEntries entries
  refine (Catalog.byPath?_eq_some_iff strict).2 ⟨?_, named.path⟩
  exact ((Catalog.byId?_eq_some_iff strict).1 named.byId).1

theorem askEntry_of_fileId (form : isFileId fileId.toList = true) :
    askEntry fileId = Index.query (·.byId? fileId) := by
  funext index link
  simp only [askEntry, form, if_true, Index.byId]

theorem askEntry_of_inner (other : isFileId inner.toList = false)
    (first : inner.toList.head? ≠ some '/') (last : inner.toList.getLast? ≠ some '/')
    (inside : inner ≠ "") : askEntry inner = Index.query (·.byPath? ("/" ++ inner)) := by
  funext index link
  have absolutePath : Index.isAbsolute ("/" ++ inner) = true := by simp [Index.isAbsolute]
  simp only [askEntry, other, Bool.false_eq_true, if_false, absolute_of_inner first, Index.byPath,
    absolutePath, if_true, withoutSlash_of_inner inside last]

/-- Both ways to ask come to a query that the catalog answers with the entry. -/
theorem AsksFor.query {request : Request} (asks : AsksFor fileId inner request)
    (named : IsNamed (.ofEntries entries) entry fileId inner) :
    ∃ target ask, pathAfter request "/api/metadata/" = .ok target ∧
      askEntry target = Index.query ask ∧ ask (.ofEntries entries) = some entry := by
  cases asks with
  | byId method path =>
    exact ⟨fileId, _, pathAfter_of_spelling (isSpelling_of_isFileId named.form) path,
      askEntry_of_fileId named.form, named.byId⟩
  | byPath spelling spells method path =>
    exact ⟨inner, _, pathAfter_of_spelling spells path,
      askEntry_of_inner named.other named.first named.last named.inside, named.byPath⟩

theorem AsksFor.method {request : Request} (asks : AsksFor fileId inner request) :
    request.method = "GET" := by
  cases asks with
  | byId method path => exact method
  | byPath spelling spells method path => exact method

theorem AsksFor.route {request : Request} (asks : AsksFor fileId inner request) {enabled : Bool}
    (on : enabled = true) : route? enabled request.path = some .metadata := by
  refine route?_metadata on ?_
  have starts (rest : String) : "/api/metadata".toList <+: ("/api/metadata/" ++ rest).toList :=
    ⟨'/' :: rest.toList, by simp⟩
  cases asks with
  | byId method path => exact path ▸ starts fileId
  | byPath spelling spells method path => exact path ▸ starts spelling

/-! ### The states between the requests -/

/-- A state before a steady origin, in which a catalog is held or would be fetched and in which
certain facts are known of a file or would be read. -/
structure Knows (g : Gateway) (catalog : Catalog) (fileId : String)
    (facts : Except Vault.Error FileFacts) : Prop where
  steady : g.engine.link.IsSteady
  ready : ∃ unlocked, g.snapshot.unlocked? = some unlocked ∧
    (unlocked.index.held g.engine.link).1 = .ok catalog ∧
    (g.engine.facts unlocked.key fileId).1 = facts

/-- What is told of a file, or why it could not be read. -/
def detailsAnswer (entry : Entry) (fileId : String) (facts : Except Vault.Error FileFacts) :
    Response BodyFault :=
  respond ((facts.map fun facts =>
    jsonResponse 200 (detailsOf entry fileId facts).toNode).mapError .ofVault)

variable {g : Gateway} {facts : Except Vault.Error FileFacts} {request : Request}

/-- A query leaves the catalog that it was answered from. -/
theorem askIndex_of_held {unlocked : Unlocked Index} {catalog : Catalog}
    (known : g.snapshot.unlocked? = some unlocked)
    (held : (unlocked.index.held g.engine.link).1 = .ok catalog) {α : Type} (ask : Catalog → α) :
    ∃ later, g.askIndex (Index.query ask) unlocked = (.ok (ask catalog), later) ∧
      g.engine.link.Grows later.engine.link ∧ later.engine.heads = g.engine.heads ∧
      later.snapshot.unlocked? =
        some { unlocked with index := { unlocked.index with catalog := some catalog } } := by
  obtain ⟨load, phase⟩ := Snapshot.phase_of_unlocked known
  have grows := (unlocked.index.query_keeps g.engine.link ask).grows
  have index := unlocked.index.held_index g.engine.link held
  rcases given : unlocked.index.held g.engine.link with ⟨result, after, link⟩
  rw [given] at held index
  subst held index
  simp only [Index.query, given] at grows
  refine ⟨{ g with
    engine := { g.engine with link := link }
    snapshot := g.snapshot.withIndex { unlocked.index with catalog := some catalog } },
    ?_, grows, rfl, ?_⟩
  · simp only [askIndex, Index.query, given]
    rfl
  · rw [Snapshot.withIndex_of_unlocked phase]
    rfl

/-- One request is answered with what is known, which stays known. -/
theorem Knows.serve (knows : g.Knows (.ofEntries entries) fileId facts)
    (named : IsNamed (.ofEntries entries) entry fileId inner)
    (asks : AsksFor fileId inner request) :
    (g.serve request).1 = detailsAnswer entry fileId facts ∧
      (g.serve request).2.Knows (.ofEntries entries) fileId facts := by
  obtain ⟨steady, unlocked, known, held, rfl⟩ := knows
  obtain ⟨target, ask, path, query, found⟩ := asks.query named
  obtain ⟨later, asked, grows, heads, after⟩ := askIndex_of_held known held ask
  have method : requireMethod request "GET" = .ok () := if_pos asks.method
  have required : g.requireUnlocked request = .ok unlocked := by
    simp only [requireUnlocked, method, known]
    rfl
  have same : (later.engine.facts unlocked.key fileId).1 =
      (g.engine.facts unlocked.key fileId).1 :=
    facts_of_lookup unlocked.key steady grows (by rw [heads])
  rw [serve_of_route (asks.route (Snapshot.isEnabled_of_unlocked known)), handle, handleMetadata]
  simp only [required, path, bind, Except.bind, pure, Except.pure, query, asked, found,
    named.fileId_eq, Option.bind_some, Option.map_some]
  have read := (facts_gathers unlocked.key fileId later.engine).grows
  refine ⟨?_, ?_, _, after, rfl, ?_⟩
  · rw [same, detailsAnswer]
    cases (g.engine.facts unlocked.key fileId).1 <;> rfl
  · exact (steady.of_grows grows).of_grows read
  · rw [← same]
    exact facts_again unlocked.key (steady.of_grows grows)

/-- The responses to requests that are served one after the other. -/
def replies : Gateway → List Request → List (Response BodyFault)
  | _, [] => []
  | g, request :: requests => (g.serve request).1 :: replies (g.serve request).2 requests

theorem Knows.replies (knows : g.Knows (.ofEntries entries) fileId facts)
    (named : IsNamed (.ofEntries entries) entry fileId inner) {requests : List Request}
    (ask : ∀ request ∈ requests, AsksFor fileId inner request) :
    g.replies requests =
      List.replicate requests.length (detailsAnswer entry fileId facts) := by
  induction requests generalizing g with
  | nil => rfl
  | cons request requests ih =>
    obtain ⟨first, others⟩ := List.forall_mem_cons.1 ask
    obtain ⟨answered, still⟩ := knows.serve named first
    rw [Gateway.replies, answered, ih still others, List.length_cons, List.replicate_succ]

/-- What is known of a file is told alike however it is asked for: by its file id or by its path,
in any order and as often as wanted, with its head in the cache or not. -/
theorem details_agree {unlocked : Unlocked Index} (known : g.snapshot.unlocked? = some unlocked)
    (steady : g.engine.link.IsSteady)
    (held : (unlocked.index.held g.engine.link).1 = .ok (.ofEntries entries))
    (named : IsNamed (.ofEntries entries) entry fileId inner) (requests : List Request)
    (ask : ∀ request ∈ requests, AsksFor fileId inner request) :
    g.replies requests = List.replicate requests.length
      (detailsAnswer entry fileId (g.engine.facts unlocked.key fileId).1) :=
  Knows.replies ⟨steady, unlocked, known, held, rfl⟩ named ask

end Named

def entrySample : Entry := ⟨"/größe 100%", false, some sampleId, none, none, none, none⟩

def unlockedSample : Unlocked Index :=
  ⟨⟨sample.master.bytes⟩, "key", ⟨⟨sample.master.bytes⟩, some (.ofEntries [entrySample])⟩⟩

/-- A gateway that is unlocked and holds an index of one file, before an origin that holds it. -/
def indexedSample : Gateway :=
  { Lifecycle.initial (Reader.ofLink (Link.holding sample.object)) (fun _ => none)
      (.ofFile .missing) with
    snapshot := ⟨2, .enabled 1 (some unlockedSample)⟩ }

def byIdSample : Request :=
  ⟨"GET", .here ⟨"/api/metadata/01234567-89ab-cdef-0123-456789abcdef", none⟩, [], []⟩

def byPathSample : Request :=
  ⟨"GET", .here ⟨"/api/metadata/gr%C3%B6%C3%9Fe%20100%25", none⟩, [], []⟩

theorem isNamed_sample :
    IsNamed (.ofEntries [entrySample]) entrySample sampleId "größe 100%" where
  form := by decide +kernel
  byId := by
    have files : (Catalog.ofEntries [entrySample]).files = [entrySample] :=
      Catalog.files_ofEntries (by decide +kernel) (List.pairwise_singleton _ _)
    rw [Catalog.byId?, files]
    decide +kernel
  path := by decide +kernel
  other := by decide +kernel
  first := by decide +kernel
  last := by decide +kernel
  inside := by decide +kernel

theorem facts_sample :
    (indexedSample.engine.facts unlockedSample.key sampleId).1 = .ok ⟨"", none, some 65540⟩ := by
  obtain ⟨opens, stores⟩ := opens_sample
  obtain ⟨fileKey, plain, -, unwrapped, -⟩ := StoredFile.decode_ok_iff.1 opens
  obtain ⟨after, found, -⟩ := stores.head_eq opens unwrapped
  have engine : indexedSample.engine = ofLink (Link.holding sample.object) := rfl
  have key : unlockedSample.key = ⟨sample.master.bytes⟩ := rfl
  have info : sample.file.head.info = ⟨"", "", 65540⟩ := rfl
  rw [Reader.facts, engine, key, found]
  simp only [Except.map, info]
  rfl

/-- The file is asked for by its path, by its id and by its path once more. -/
theorem details_agree_of_sample :
    let requests := [byPathSample, byIdSample, byPathSample]
    let answer := detailsAnswer entrySample sampleId (.ok ⟨"", none, some 65540⟩)
    indexedSample.snapshot.unlocked? = some unlockedSample ∧
      indexedSample.engine.link.IsSteady ∧
      (unlockedSample.index.held indexedSample.engine.link).1 =
        .ok (.ofEntries [entrySample]) ∧
      IsNamed (.ofEntries [entrySample]) entrySample sampleId "größe 100%" ∧
      (∀ request ∈ requests, AsksFor sampleId "größe 100%" request) ∧
      answer.status = 200 ∧ indexedSample.replies requests = [answer, answer, answer] := by
  intro requests answer
  have known : indexedSample.snapshot.unlocked? = some unlockedSample := rfl
  have steady : indexedSample.engine.link.IsSteady := Link.isSteady_holding _
  have held : (unlockedSample.index.held indexedSample.engine.link).1 =
      .ok (.ofEntries [entrySample]) := rfl
  have byPath : AsksFor sampleId "größe 100%" byPathSample :=
    .byPath (Text.Percent.encode "größe 100%") (Text.Percent.isSpelling_encode _) rfl
      (by decide +kernel)
  have byId : AsksFor sampleId "größe 100%" byIdSample := .byId rfl (by decide +kernel)
  have ask : ∀ request ∈ requests, AsksFor sampleId "größe 100%" request := by
    simp only [requests, List.forall_mem_cons]
    exact ⟨byPath, byId, byPath, by simp⟩
  refine ⟨known, steady, held, isNamed_sample, ask, rfl, ?_⟩
  have agreed := details_agree known steady held isNamed_sample requests ask
  rwa [facts_sample] at agreed

end Gateway

end SealGate
