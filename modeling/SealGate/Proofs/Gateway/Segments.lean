import SealGate.Proofs.Gateway.Answers
import SealGate.Proofs.Gateway.Folders
import SealGate.Proofs.Gateway.Overlay

/-! Which paths lead into the index. What is known of a file is told only below the place for it. A
listing has its own place, and the paths below it; but behind the last letter of that place a path
may go on without a slash, and whatever can be read there names a folder as if there were one. -/

namespace SealGate

open Http Json Origin Session Vault

namespace Json

/-! ### How written trees start -/

theorem array_starts (elements : List Node) : ['['] <+: (Node.array elements).renderChars := by
  rw [Node.renderChars]
  exact ⟨_, rfl⟩

theorem exists_joinComma (text : List Char) (texts : List (List Char)) :
    ∃ behind, joinComma (text :: texts) = text ++ behind := by
  cases texts with
  | nil => exact ⟨[], (List.append_nil _).symm⟩
  | cons next texts => exact ⟨_, rfl⟩

/-- The text of an object whose first member has a key. -/
def objectLead (key : String) : List Char := '\x7b' :: (Piece.renderAll (Piece.ofText key) ++ [':'])

theorem objectLead_starts (member : String × Node) (members : List (List Piece × Node)) :
    objectLead member.1 <+: (Node.object (spelled member :: members)).renderChars := by
  obtain ⟨behind, joined⟩ := exists_joinComma
    (Piece.renderAll (Piece.ofText member.1) ++ ':' :: member.2.renderChars)
    (Node.renderMembers members)
  refine ⟨member.2.renderChars ++ (behind ++ ['\x7d']), ?_⟩
  rw [Node.renderChars, spelled, Node.renderMembers, joined, objectLead]
  simp

end Json

namespace Gateway

theorem objectLead_details {details : FileDetails} :
    objectLead "fileId" <+: details.toNode.renderChars :=
  objectLead_starts ("fileId", _) _

/-- The description of the origin starts with one of its known fields if it has one. -/
theorem exists_objectLead_info {info : ServerInfo} (shown : info.repoUnlocked.isSome) :
    ∃ key ∈ ServerInfo.knownKeys, objectLead key <+: info.toNode.renderChars := by
  obtain ⟨unlocked, shown⟩ := Option.isSome_iff_exists.1 shown
  have mem : ("repoUnlocked", Node.bool unlocked) ∈ present info.fields := by
    refine List.mem_filterMap.2 ⟨("repoUnlocked", info.repoUnlocked.map .bool), ?_, ?_⟩
    · simp [ServerInfo.fields]
    · rw [shown]
      rfl
  cases first : present info.fields with
  | nil => simp [first] at mem
  | cons member behind =>
    have held : member ∈ present info.fields := by simp [first]
    obtain ⟨field, own, value⟩ := List.mem_filterMap.1 held
    obtain ⟨node, -, rfl⟩ := Option.map_eq_some_iff.1 value
    refine ⟨field.1, List.mem_map_of_mem (f := Prod.fst) own, ?_⟩
    rw [ServerInfo.toNode_eq, ServerInfo.members, first]
    exact objectLead_starts (field.1, node) _

theorem renderChars_of_jsonResponse {ε : Type} {one other : Node}
    (same : (jsonResponse 200 one : Response ε) = jsonResponse 200 other) :
    one.renderChars = other.renderChars := by
  have bodies : one.toBytes = other.toBytes := by
    simpa [jsonResponse, Body.ofBytes] using same
  have texts : one.render = other.render := by
    have read := congrArg Bytes.text? bodies
    simpa only [Node.toBytes, Bytes.text?_ofText, Option.some.injEq] using read
  simpa only [Node.render, String.toList_ofList] using congrArg String.toList texts

/-! ### The answers -/

variable {g : Gateway} {request : Request} {node : Node}

/-- A good answer in JSON is one that a handler has made. -/
theorem told_of_serve (served : (g.serve request).1 = jsonResponse 200 node) :
    ∃ route other, Told request route other ∧ other.renderChars = node.renderChars := by
  cases routed : route? g.snapshot.isEnabled request.path with
  | none =>
    simp only [serve, dispatch, routed] at served
    rcases given : g.relay request with ⟨error | response, after⟩ <;> rw [given] at served
    · cases congrArg Response.status served
    · obtain ⟨items, streamed⟩ := relay_streams given
      obtain rfl : response = jsonResponse 200 node := served
      cases streamed
  | some route =>
    have answers := answers_handle g route request
    rw [serve_of_route routed] at served
    generalize (g.handle route request).1 = outcome at served answers
    cases answers with
    | @failed error code =>
      have good : error.code = 200 := congrArg Response.status served
      rw [code] at good
      cases good
    | told told => exact ⟨route, _, told, renderChars_of_jsonResponse served⟩
    | @streamed response streams =>
      obtain rfl : response = jsonResponse 200 node := served
      obtain ⟨items, streamed⟩ := streams rfl
      cases streamed

/-- A text has one start. -/
theorem not_starts_of_apart {lead start text : List Char} (leads : lead <+: text)
    (apart : ¬ lead <+: start ∧ ¬ start <+: lead) : ¬ start <+: text := fun starts =>
  (List.prefix_or_prefix_of_prefix leads starts).elim apart.1 apart.2

theorem apart_known {key : String} (known : key ∈ ServerInfo.knownKeys) :
    ¬ objectLead key <+: objectLead "fileId" ∧ ¬ objectLead "fileId" <+: objectLead key := by
  revert key
  decide

theorem apart_array (key : String) : ¬ objectLead key <+: ['['] ∧ ¬ ['['] <+: objectLead key := by
  simp [objectLead]

/-- A listing is the answer to a path that can be read behind its place. -/
theorem rest_of_listing {entries : List Entry} (get : request.method = "GET")
    (served : (g.serve request).1 = jsonResponse 200 (Entry.listNode entries)) :
    ∃ text, pathAfter request "/api/tree" = .ok text := by
  obtain ⟨route, other, told, same⟩ := told_of_serve served
  have array : ['['] <+: other.renderChars := by
    rw [same]
    exact array_starts _
  cases told with
  | info shown =>
    obtain ⟨key, -, leads⟩ := exists_objectLead_info shown
    exact absurd array (not_starts_of_apart leads (apart_array key))
  | unlock post => exact absurd (get.symm.trans post) (by decide)
  | tree method read => exact ⟨_, read⟩
  | metadata method read =>
    exact absurd array (not_starts_of_apart objectLead_details (apart_array "fileId"))

/-- What is known of a file is the answer to a path that can be read behind the place for it. -/
theorem rest_of_details {details : FileDetails} (get : request.method = "GET")
    (served : (g.serve request).1 = jsonResponse 200 details.toNode) :
    ∃ text, pathAfter request "/api/metadata/" = .ok text := by
  obtain ⟨route, other, told, same⟩ := told_of_serve served
  have record : objectLead "fileId" <+: other.renderChars := by
    rw [same]
    exact objectLead_details
  cases told with
  | info shown =>
    obtain ⟨key, known, leads⟩ := exists_objectLead_info shown
    exact absurd record (not_starts_of_apart leads (apart_known known))
  | unlock post => exact absurd (get.symm.trans post) (by decide)
  | tree method read =>
    exact absurd record (not_starts_of_apart (array_starts _) (apart_array "fileId").symm)
  | metadata method read => exact ⟨_, read⟩

/-! ### The paths -/

/-- The path is a place, or lies below it. -/
def Within (place path : String) : Prop :=
  path = place ∨ (place ++ "/").toList <+: path.toList

/-- A path goes on behind the last letter of the place for listings, without a slash, and what
stands there can be read. -/
def Overruns (path : String) : Prop :=
  ∃ rest text, path = "/api/tree" ++ rest ∧ Text.Percent.decode? rest = some text ∧
    rest ≠ "" ∧ rest.toList.head? ≠ some '/'

/-- A request is answered with the listing of a folder, whatever the index holds. -/
def NamesFolder (request : Request) (folder : String) : Prop :=
  ∀ (g : Gateway) (unlocked : Unlocked Reader.Index) (catalog : Catalog),
    g.snapshot.unlocked? = some unlocked →
    (unlocked.index.held g.engine.link).1 = .ok catalog →
    (g.serve request).1 = jsonResponse 200 (Entry.listNode (catalog.listFolder folder))

/-- A GET is answered from the index only at the places for that and below them. -/
structure KeepsToPlaces (request : Request) : Prop where
  listing : ∀ (g : Gateway) (entries : List Entry), request.method = "GET" →
    g.snapshot.unlocked?.isSome →
    (g.serve request).1 = jsonResponse 200 (Entry.listNode entries) →
    Within "/api/tree" request.path
  details : ∀ (g : Gateway) (details : FileDetails), request.method = "GET" →
    g.snapshot.unlocked?.isSome → (g.serve request).1 = jsonResponse 200 details.toNode →
    "/api/metadata/".toList <+: request.path.toList
  folder : ∀ folder, request.method = "GET" → NamesFolder request folder →
    Within "/api/tree" request.path

/-- What can be read behind a text stands behind it. -/
theorem exists_rest_of_pathAfter {lead text : String} (read : pathAfter request lead = .ok text) :
    ∃ rest, request.path = lead ++ rest ∧ Text.Percent.decode? rest = some text := by
  unfold pathAfter at read
  split at read
  · cases read
  rename_i rest behind
  split at read
  · cases read
  rename_i inner decoded
  obtain rfl := Except.ok.inj read
  refine ⟨String.ofList rest, ?_, decoded⟩
  rw [← String.toList_inj, String.toList_append, String.toList_ofList]
  exact Text.after?_eq_some_iff.1 behind

theorem within_of_rest {text : String} (read : pathAfter request "/api/tree" = .ok text)
    (kept : ¬ Overruns request.path) : Within "/api/tree" request.path := by
  obtain ⟨rest, path, decoded⟩ := exists_rest_of_pathAfter read
  by_cases bare : rest = ""
  · rw [bare, String.append_empty] at path
    exact .inl path
  · have slash : rest.toList.head? = some '/' := by
      by_contra none
      exact kept ⟨rest, text, path, decoded, bare, none⟩
    obtain ⟨behind, below⟩ := List.head?_eq_some_iff.1 slash
    refine .inr ⟨behind, ?_⟩
    rw [path, String.toList_append, String.toList_append, below]
    simp

theorem not_within_of_overruns {path : String} (overruns : Overruns path) :
    ¬ Within "/api/tree" path := by
  obtain ⟨rest, text, rfl, -, filled, slashless⟩ := overruns
  rintro (same | ⟨behind, below⟩)
  · rw [← String.toList_inj, String.toList_append, List.append_right_eq_self] at same
    exact filled (String.toList_inj.1 same)
  · rw [String.toList_append, String.toList_append, List.append_assoc] at below
    rw [← List.append_cancel_left below] at slashless
    exact slashless rfl

/-- Whatever can be read behind the place for listings names a folder. -/
theorem namesFolder_of_rest {rest text : String} (method : request.method = "GET")
    (path : request.path = "/api/tree" ++ rest)
    (decoded : Text.Percent.decode? rest = some text) : NamesFolder request (absolute text) := by
  intro g unlocked catalog known held
  obtain ⟨later, asked, -⟩ := askIndex_of_held known held (·.listFolder (absolute text))
  rw [serve_tree_of_rest known method path decoded, asked]
  rfl

theorem below_of_pathAfter {lead text : String} (read : pathAfter request lead = .ok text) :
    lead.toList <+: request.path.toList := by
  obtain ⟨rest, path, -⟩ := exists_rest_of_pathAfter read
  exact ⟨rest.toList, by rw [path, String.toList_append]⟩

/-- What is known of a file is told only below the place for it. A listing is given only at its own
place and below it, unless a path goes on behind the last letter of that place; and such a path,
like any other there, names the folder that can be read behind the place, with a slash in front if
there is none. -/
theorem keepsToPlaces_iff (request : Request) :
    (KeepsToPlaces request ↔ ¬ (request.method = "GET" ∧ Overruns request.path)) ∧
    (∀ (g : Gateway) (details : FileDetails), request.method = "GET" →
      (g.serve request).1 = jsonResponse 200 details.toNode →
      "/api/metadata/".toList <+: request.path.toList) ∧
    ∀ rest text, request.method = "GET" → request.path = "/api/tree" ++ rest →
      Text.Percent.decode? rest = some text → NamesFolder request (absolute text) := by
  have details (g : Gateway) (details : FileDetails) (get : request.method = "GET")
      (served : (g.serve request).1 = jsonResponse 200 details.toNode) :
      "/api/metadata/".toList <+: request.path.toList := by
    obtain ⟨text, read⟩ := rest_of_details get served
    exact below_of_pathAfter read
  refine ⟨⟨?_, fun kept => ?_⟩, details, fun rest text => namesFolder_of_rest⟩
  · rintro keeps ⟨get, overruns⟩
    obtain ⟨rest, text, path, decoded, -, -⟩ := id overruns
    exact not_within_of_overruns overruns
      (keeps.folder _ get (namesFolder_of_rest get path decoded))
  · have listing (g : Gateway) (entries : List Entry) (get : request.method = "GET")
        (served : (g.serve request).1 = jsonResponse 200 (Entry.listNode entries)) :
        Within "/api/tree" request.path := by
      obtain ⟨text, read⟩ := rest_of_listing get served
      exact within_of_rest read fun overruns => kept ⟨get, overruns⟩
    exact {
      listing := fun g entries get _ => listing g entries get
      details := fun g known get _ => details g known get
      -- one state with a catalog is enough to see the listing
      folder := fun folder get names =>
        listing deepIndexed _ get (names deepIndexed deepUnlocked _ rfl rfl) }

/-- The folder `/docs`, asked for with a slash and without. -/
theorem keepsToPlaces_iff_of_docs :
    let below : Request := ⟨"GET", .here ⟨"/api/tree/docs", none⟩, [], []⟩
    let beside : Request := ⟨"GET", .here ⟨"/api/treedocs", none⟩, [], []⟩
    (KeepsToPlaces below ∧ NamesFolder below "/docs") ∧
      ¬ KeepsToPlaces beside ∧ NamesFolder beside "/docs" := by
  intro below beside
  have path : below.path = "/api/tree" ++ "/docs" := by decide
  have beyond : beside.path = "/api/tree" ++ "docs" := by decide
  have kept : ¬ Overruns below.path := by
    rintro ⟨rest, text, same, -, -, slashless⟩
    rw [path, ← String.toList_inj, String.toList_append, String.toList_append] at same
    rw [← List.append_cancel_left same] at slashless
    exact slashless rfl
  obtain ⟨keeps, -, names⟩ := keepsToPlaces_iff below
  obtain ⟨strays, -, others⟩ := keepsToPlaces_iff beside
  refine ⟨⟨keeps.2 fun strayed => kept strayed.2, ?_⟩, fun stays => strays.1 stays ⟨rfl, ?_⟩, ?_⟩
  · exact names "/docs" "/docs" rfl path (by decide +kernel)
  · exact ⟨"docs", "docs", beyond, by decide +kernel, by decide, by decide⟩
  · exact others "docs" "docs" rfl beyond (by decide +kernel)

def docsEntry : Entry := ⟨"/docs/a.md", false, some Reader.sampleId, none, none, none, none⟩

def docsUnlocked : Unlocked Reader.Index :=
  { unlockedSample with index := ⟨unlockedSample.key, some (.ofEntries [docsEntry])⟩ }

/-- An unlocked gateway that holds an index of one file. -/
def docsIndexed : Gateway :=
  { indexedSample with snapshot := ⟨2, .enabled 1 (some docsUnlocked)⟩ }

theorem listFolder_docs :
    (Catalog.ofEntries [docsEntry]).listFolder "/docs" = [{ docsEntry with path := "a.md" }] := by
  have files : (Catalog.ofEntries [docsEntry]).files = [docsEntry] :=
    Catalog.files_ofEntries (by decide +kernel) (List.pairwise_singleton _ _)
  rw [Catalog.listFolder, files]
  decide +kernel

/-- A path that goes on behind the place for listings, without a slash, gets the listing of a folder
of the index. -/
theorem neighbour_of_place_is_listed :
    let request : Request := ⟨"GET", .here ⟨"/api/treedocs", none⟩, [], []⟩
    docsIndexed.snapshot.isEnabled = true ∧ docsIndexed.snapshot.unlocked? = some docsUnlocked ∧
      (docsIndexed.serve request).1 =
        jsonResponse 200 (Entry.listNode [{ docsEntry with path := "a.md" }]) ∧
      ¬ Within "/api/tree" request.path := by
  intro request
  have path : request.path = "/api/tree" ++ "docs" := by decide
  have decoded : Text.Percent.decode? "docs" = some "docs" := by decide +kernel
  have names := namesFolder_of_rest rfl path decoded
  have held : (docsUnlocked.index.held docsIndexed.engine.link).1 =
      .ok (.ofEntries [docsEntry]) := rfl
  have folder : absolute "docs" = "/docs" := by decide
  have served := names docsIndexed docsUnlocked _ rfl held
  rw [folder, listFolder_docs] at served
  exact ⟨rfl, rfl, served,
    not_within_of_overruns ⟨"docs", "docs", path, decoded, by decide, by decide⟩⟩

end Gateway

end SealGate
