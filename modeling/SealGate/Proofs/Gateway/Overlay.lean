import SealGate.Proofs.Gateway.Holdings
import SealGate.Proofs.Gateway.PassThrough
import SealGate.Proofs.Json.Tagged
import SealGate.Proofs.Json.Values
import SealGate.Proofs.Vault.Lookup

/-! What the gateway tells of the origin. A description is read back from its text if the values of
its other members are kept, since no known key is among theirs. So the answer to a request for it
is what the origin has told, with what is known here put over it: that the repository is locked, or
that it is unlocked, how many files there are, and that nothing can be written. -/

namespace SealGate.Gateway

open Http Json Origin Session Vault

namespace ServerInfo

/-! ### A description as a record -/

variable (info : ServerInfo)

def fields : List (String × Option Node) :=
  [("name", info.name.map .ofText), ("version", info.version.map .ofText),
    ("buildId", info.buildId.map .ofText), ("buildTime", info.buildTime.map .ofText),
    ("commitHash", info.commitHash.map .ofText), ("runtime", info.runtime.map .ofText),
    ("readOnly", info.readOnly.map .bool), ("repoSelected", info.repoSelected.map .bool),
    ("repoUnlocked", info.repoUnlocked.map .bool), ("storeType", info.storeType.map .ofText),
    ("storeAccount", info.storeAccount.map .ofText), ("repoId", info.repoId.map .ofText),
    ("repoVersion", info.repoVersion.map fun n => .ofNat n.toNat),
    ("files", info.files.map fun n => .ofNat n.toNat), ("gpgUnlock", info.gpgUnlock.map .bool)]

/-- The members in the order in which they are written. -/
def members : List (String × Node) :=
  present info.fields ++ info.others.map fun member => (member.1, member.2.toNode)

theorem toNode_eq : info.toNode = .object (info.members.map spelled) := by
  have written : info.toNode = .object ((info.fields.map fun field =>
      memberIf field.1 field.2) ++ [Value.memberNodes info.others]).flatten := rfl
  rw [written, List.flatten_append, flatten_memberIf, List.flatten_singleton,
    Value.memberNodes_eq, members, List.map_append, List.map_map]
  rfl

/-- The other members have values that are kept and keys that are not known, in their order. -/
structure IsKept : Prop where
  ordered : info.others.Pairwise fun a b => a.1 < b.1
  unknown : ∀ member ∈ info.others, member.1 ∉ knownKeys
  values : ∀ member ∈ info.others, member.2.IsKept (depthLimit - 1)

variable {info}

theorem IsKept.of_others {other : ServerInfo} (kept : info.IsKept)
    (same : other.others = info.others) : other.IsKept where
  ordered := same ▸ kept.ordered
  unknown := same ▸ kept.unknown
  values := same ▸ kept.values

theorem field?_members (kept : info.IsKept) {key : String} {value : Option Node}
    (mem : (key, value) ∈ info.fields) : field? info.members key = some value := by
  have known : key ∈ knownKeys := List.mem_map_of_mem (f := Prod.fst) mem
  have distinct : (info.fields.map Prod.fst).Nodup := by
    show knownKeys.Nodup
    decide
  have own := membersOf_present distinct mem
  have none : membersOf (info.others.map fun member => (member.1, member.2.toNode)) key = [] := by
    rw [membersOf, List.map_eq_nil_iff, List.filter_eq_nil_iff]
    intro found among
    obtain ⟨member, held, rfl⟩ := List.mem_map.1 among
    simp only [decide_eq_true_eq]
    rintro rfl
    exact kept.unknown member held known
  rw [membersOf] at own none
  rw [field?, membersOf, members, List.filter_append, List.map_append, own, none, List.append_nil]
  cases value <;> rfl

theorem others?_members (kept : info.IsKept) : others? info.members = some info.others := by
  have known : (present info.fields).filter (fun member => member.1 ∉ knownKeys) = [] := by
    refine List.filter_eq_nil_iff.2 fun member mem => ?_
    have key : member.1 ∈ knownKeys := key_of_mem_present mem
    simpa using key
  have unknown : (info.others.map fun member => (member.1, member.2.toNode)).filter
      (fun member => member.1 ∉ knownKeys) =
        info.others.map fun member => (member.1, member.2.toNode) := by
    refine List.filter_eq_self.2 fun found among => ?_
    obtain ⟨member, held, rfl⟩ := List.mem_map.1 among
    simpa using kept.unknown member held
  have reads : ∀ member ∈ info.others,
      (Value.ofNode? (depthLimit - 1) member.2.toNode).map (fun value => (member.1, value)) =
        some member := by
    intro member mem
    rw [(kept.values member mem).ofNode?_toNode, Option.map_some]
  rw [others?, members, List.filter_append, known, unknown, List.nil_append, List.mapM_map]
  refine (congrArg (Option.map _) (mapM_of_each reads)).trans ?_
  rw [List.map_id', Option.map_some, orderMembers_of_pairwise kept.ordered]

theorem named?_spelled (members : List (String × Node)) :
    named? (members.map spelled) = some members := by
  rw [named?, List.mapM_map]
  refine (mapM_of_each fun member _ => ?_).trans (congrArg some (List.map_id' members))
  simp only [Function.comp_apply, spelled, keyText?_ofText, Option.map_some]

theorem IsKept.ofNode?_toNode (kept : info.IsKept) : ofNode? info.toNode = some info := by
  have found : ∀ field ∈ info.fields, field? info.members field.1 = some field.2 :=
    fun field mem => field?_members kept mem
  simp only [fields, List.forall_mem_cons] at found
  obtain ⟨name, version, buildId, buildTime, commitHash, runtime, readOnly, repoSelected,
    repoUnlocked, storeType, storeAccount, repoId, repoVersion, files, gpgUnlock, -⟩ := found
  simp only [toNode_eq, ofNode?, named?_spelled, name, version, buildId, buildTime, commitHash,
    runtime, readOnly, repoSelected, repoUnlocked, storeType, storeAccount, repoId, repoVersion,
    files, gpgUnlock, others?_members kept, bind, Option.bind, optional_text, optional_bool,
    optional_uint32, optional_uint64]
  rfl

/-- The values that are written are texts, flags, numbers of 64 bits and those of the others. -/
theorem forall_members {kind : Node → Prop} (text : ∀ text, kind (.ofText text))
    (bool : ∀ b, kind (.bool b)) (number : ∀ n < 2 ^ 64, kind (.ofNat n))
    (others : ∀ member ∈ info.others, kind member.2.toNode) :
    ∀ member ∈ info.members, kind member.2 := by
  have each {α : Type} {write : α → Node} (all : ∀ a, kind (write a)) (value : Option α) :
      ∀ node, value.map write = some node → kind node := by
    intro node same
    obtain ⟨a, -, rfl⟩ := Option.map_eq_some_iff.1 same
    exact all a
  have flags := each bool
  have texts := each text
  have short := each fun n : UInt32 => number n.toNat (n.toNat_lt.trans (by decide))
  have long := each fun n : UInt64 => number n.toNat n.toNat_lt
  have known : ∀ field ∈ info.fields, ∀ node, field.2 = some node → kind node := by
    simp only [fields, List.forall_mem_cons]
    exact ⟨texts _, texts _, texts _, texts _, texts _, texts _, flags _, flags _, flags _,
      texts _, texts _, texts _, short _, long _, flags _, by simp⟩
  intro found mem
  rcases List.mem_append.1 mem with own | other
  · obtain ⟨field, among, same⟩ := List.mem_filterMap.1 own
    obtain ⟨node, value, rfl⟩ := Option.map_eq_some_iff.1 same
    exact known field among node value
  · obtain ⟨member, among, rfl⟩ := List.mem_map.1 other
    exact others member among

theorem IsKept.isProper_toNode (kept : info.IsKept) : info.toNode.IsProper := by
  have each := info.forall_members Node.isProper_ofText .bool (fun n _ => Node.isProper_ofNat n)
    fun member mem => (kept.values member mem).isProper_toNode
  rw [toNode_eq]
  refine .object ?_ ?_
  · intro found mem
    obtain ⟨member, -, rfl⟩ := List.mem_map.1 mem
    exact Value.isProper_key member.1
  · intro found mem
    obtain ⟨member, among, rfl⟩ := List.mem_map.1 mem
    exact each member among

theorem IsKept.isIntegral_toNode (kept : info.IsKept) : info.toNode.IsIntegral := by
  have each := info.forall_members (fun _ => .string _) .bool (fun n => Node.isIntegral_ofNat)
    fun member mem => (kept.values member mem).isIntegral_toNode
  rw [toNode_eq]
  refine .object fun found mem => ?_
  obtain ⟨member, among, rfl⟩ := List.mem_map.1 mem
  exact each member among

/-- A description among whose numbers are none but integers is kept. -/
theorem isKept_of_ofNode? {node : Node} (integral : node.IsIntegral)
    (read : ofNode? node = some info) : info.IsKept := by
  cases integral with
  | object each =>
    obtain ⟨named, names, rest⟩ := Option.bind_eq_some_iff.1 read
    -- the known fields do not matter
    iterate 15 obtain ⟨_, -, rest⟩ := Option.bind_eq_some_iff.1 rest
    obtain ⟨others, held, same⟩ := Option.bind_eq_some_iff.1 rest
    obtain rfl := Option.some.inj same
    obtain ⟨values, reads, rfl⟩ := Option.map_eq_some_iff.1 held
    have unknown (member : String × Value) (mem : member ∈ orderMembers values) :
        ∃ found ∈ named, found.1 ∉ knownKeys ∧ found.1 = member.1 ∧
          Value.ofNode? (depthLimit - 1) found.2 = some member.2 := by
      obtain ⟨found, among, read⟩ := mem_of_mapM reads (mem_of_mem_orderMembers mem)
      obtain ⟨value, own, rfl⟩ := Option.map_eq_some_iff.1 read
      obtain ⟨held, other⟩ := List.mem_filter.1 among
      exact ⟨found, held, of_decide_eq_true other, rfl, own⟩
    refine ⟨pairwise_orderMembers values, ?_, ?_⟩
    · intro member mem
      obtain ⟨found, -, other, key, -⟩ := unknown member mem
      exact key ▸ other
    · intro member mem
      obtain ⟨found, among, -, -, own⟩ := unknown member mem
      obtain ⟨spelling, held, same⟩ := mem_of_mapM names among
      obtain ⟨text, -, rfl⟩ := Option.map_eq_some_iff.1 same
      exact Value.isKept_of_ofNode? (each spelling held) own
  | _ => cases read

end ServerInfo

/-! ### The answer -/

/-- What the origin has told of itself, with what is known here put over it. -/
inductive Overlaid (g : Gateway) (link : Link) (info : ServerInfo) : ServerInfo → Prop
  | locked : g.snapshot.unlocked? = none →
      Overlaid g link info { info with repoUnlocked := some false }
  | unlocked {unlocked : Unlocked Reader.Index} {entries : List Entry} :
      g.snapshot.unlocked? = some unlocked →
      (unlocked.index.held link).1 = .ok (.ofEntries entries) →
      Overlaid g link info { info with
        repoUnlocked := some true
        files := some (.ofNat (entries.map fun entry => absolute entry.path).toFinset.card)
        readOnly := some true }

/-- The body of a response is read as a description. -/
def Tells {ε : Type} (response : Response ε) (info : ServerInfo) : Prop :=
  ∃ body, response.body.collect = .ok body ∧
    (Node.ofBytes? body).bind ServerInfo.ofNode? = some info

variable {g : Gateway} {request : Request} {info : ServerInfo}

theorem ServerInfo.IsKept.tells {ε : Type} (kept : info.IsKept) (status : Nat) :
    Tells (jsonResponse status info.toNode : Response ε) info := by
  refine ⟨info.toNode.toBytes, rfl, ?_⟩
  rw [Node.ofBytes?_toBytes kept.isProper_toNode, Option.bind_some, kept.ofNode?_toNode]

theorem infoOf_of_tells {response : Response BodyFault} (tells : Tells response info) :
    infoOf response = .ok info := by
  obtain ⟨body, collected, read⟩ := tells
  cases body with
  | nil => cases read
  | cons b body => simp only [infoOf, collected, read]

theorem Tells.shown {answer : Response ReadFault} (tells : Tells answer info) :
    Tells (Gateway.shown answer) info := by
  obtain ⟨body, collected, read⟩ := tells
  refine ⟨body, ?_, read⟩
  rw [Gateway.shown, Body.collect, Body.join_map_mapError, Body.join_items, collected]
  rfl

/-- What is told while the repository is locked, and while it is unlocked. -/
theorem serve_info (on : g.snapshot.isEnabled = true) (method : request.method = "GET")
    (path : "/api/info".toList <+: request.path.toList) {answer : Response ReadFault}
    (answered : (g.engine.link.send (Link.relayed request)).1 = .ok answer)
    (tells : Tells answer info) :
    (g.serve request).1 =
      match g.snapshot.unlocked? with
      | none => jsonResponse 200 { info with repoUnlocked := some false }.toNode
      | some unlocked =>
        match (unlocked.index.held (g.engine.link.send (Link.relayed request)).2).1 with
        | .ok catalog => jsonResponse 200 (info.unlocked catalog.size).toNode
        | .error error => (Error.ofVault error).toResponse := by
  have relayed : g.relay request =
      (.ok (shown answer), g.withLink (g.engine.link.send (Link.relayed request)).2) := by
    rw [relay_eq, answered, Link.send_snd]
    rfl
  have snapshot (link : Link) : (g.withLink link).snapshot = g.snapshot := rfl
  rw [serve_of_route (route?_info on path), handle, handleInfo]
  simp only [requireMethod, if_pos method, relayed, infoOf_of_tells tells.shown, snapshot]
  cases g.snapshot.unlocked? with
  | none => rfl
  | some unlocked =>
    have link (later : Link) : (g.withLink later).engine.link = later := rfl
    simp only [askIndex, Reader.Index.size, Reader.Index.query, link]
    cases (unlocked.index.held (g.engine.link.send (Link.relayed request)).2).1 <;> rfl

/-- The answer to a request for the description of the origin is the description that the origin
gives, with the state of this gateway over it and everything else as it was; there is no other
answer but an error, and that only while the index cannot be read. -/
theorem overlays_info (on : g.snapshot.isEnabled = true) (made : g.HoldsMade)
    (method : request.method = "GET") (path : "/api/info".toList <+: request.path.toList)
    {answer : Response ReadFault} {body : Bytes} {node : Node}
    (answered : (g.engine.link.send (Link.relayed request)).1 = .ok answer)
    (collected : answer.body.collect = .ok body) (parsed : Node.ofBytes? body = some node)
    (integral : node.IsIntegral) (read : ServerInfo.ofNode? node = some info) :
    ((g.serve request).1.status = 200 ↔
        ∃ told, Overlaid g (g.engine.link.send (Link.relayed request)).2 info told) ∧
      ∀ told, Overlaid g (g.engine.link.send (Link.relayed request)).2 info told →
        Tells (g.serve request).1 told := by
  have kept := ServerInfo.isKept_of_ofNode? integral read
  have served := serve_info on method path answered ⟨body, collected, by rw [parsed]; exact read⟩
  constructor
  · constructor
    · intro good
      cases known : g.snapshot.unlocked? with
      | none => exact ⟨_, .locked known⟩
      | some unlocked =>
        simp only [served, known] at good
        cases held : (unlocked.index.held (g.engine.link.send (Link.relayed request)).2).1 with
        | error error =>
          rw [held] at good
          exact absurd ((code_ofVault error).symm.trans good) (by decide)
        | ok catalog =>
          obtain ⟨entries, rfl⟩ := made.held known held
          exact ⟨_, .unlocked known held⟩
    · rintro ⟨told, known | ⟨known, held⟩⟩
      · simp only [served, known]
        rfl
      · simp only [served, known, held]
        rfl
  · rintro told (known | ⟨known, held⟩)
    · simp only [served, known]
      refine ServerInfo.IsKept.tells ?_ 200
      exact kept.of_others rfl
    · simp only [served, known, held, Catalog.size_ofEntries]
      refine ServerInfo.IsKept.tells ?_ 200
      exact kept.of_others rfl

/-- A description of a repository that can be written, with nested members that nobody knows. -/
def infoSample : ServerInfo where
  name := none
  version := none
  buildId := none
  buildTime := none
  commitHash := none
  runtime := none
  readOnly := some false
  repoSelected := none
  repoUnlocked := some false
  storeType := none
  storeAccount := none
  repoId := none
  repoVersion := some 7
  files := none
  gpgUnlock := none
  others := [("k", .null), ("z", .array [.object [
    ("a", .number (.integer 18446744073709551615)), ("b", .number (.integer (-1)))]])]

theorem isKept_infoSample : infoSample.IsKept where
  ordered := by decide +kernel
  unknown := by decide +kernel
  values := by
    have nested : Value.IsKept (124 + 1 + 1) (.array [.object [
        ("a", .number (.integer 18446744073709551615)), ("b", .number (.integer (-1)))]]) := by
      refine .array (List.forall_mem_singleton.2 (.object (by decide +kernel) ?_))
      simp only [List.forall_mem_cons]
      exact ⟨.number (by decide), .number (by decide), by simp⟩
    simp only [infoSample, List.forall_mem_cons]
    exact ⟨.null, nested, by simp⟩

/-- Three entries with two paths. -/
def pathsSample : List Entry := ["b", "/a", "/b"].map fun path =>
  ⟨path, false, none, none, none, none, none⟩

def answerSample : Response ReadFault := ⟨203, [], .streamed [.ok infoSample.toNode.toBytes]⟩

/-- A gateway that is unlocked before an origin that gives a description. -/
def describedSample : Gateway :=
  let key : MasterKey := ⟨List.replicate 32 1⟩
  { Lifecycle.initial (Reader.ofLink (.always (.response answerSample))) (fun _ => none)
      (.ofFile .missing) with
    snapshot := ⟨2, .enabled 1 (some ⟨key, "key", ⟨key, some (.ofEntries pathsSample)⟩⟩)⟩ }

def askingSample : Request := ⟨"GET", .here ⟨"/api/info", none⟩, [], []⟩

theorem overlays_info_of_sample :
    describedSample.snapshot.isEnabled = true ∧ describedSample.HoldsMade ∧
      askingSample.method = "GET" ∧ "/api/info".toList <+: askingSample.path.toList ∧
      (describedSample.engine.link.send (Link.relayed askingSample)).1 = .ok answerSample ∧
      answerSample.body.collect = .ok infoSample.toNode.toBytes ∧
      Node.ofBytes? infoSample.toNode.toBytes = some infoSample.toNode ∧
      infoSample.toNode.IsIntegral ∧
      ServerInfo.ofNode? infoSample.toNode = some infoSample ∧
      (describedSample.serve askingSample).1.status = 200 ∧
      Tells (describedSample.serve askingSample).1
        { infoSample with repoUnlocked := some true, files := some 2, readOnly := some true } := by
  have made : describedSample.HoldsMade := by
    rintro _ ⟨⟩ _ ⟨⟩
    exact ⟨pathsSample, rfl⟩
  have path : "/api/info".toList <+: askingSample.path.toList := by decide +kernel
  have answered : (describedSample.engine.link.send (Link.relayed askingSample)).1 =
      .ok answerSample := by
    have located : (locate "http://[::1]" (Link.relayed askingSample)).toOption.map Net.Url.user =
        some none := by decide +kernel
    exact Link.send_always located answerSample
  have collected : answerSample.body.collect = .ok infoSample.toNode.toBytes :=
    congrArg Except.ok (List.append_nil infoSample.toNode.toBytes)
  have parsed : Node.ofBytes? infoSample.toNode.toBytes = some infoSample.toNode :=
    Node.ofBytes?_toBytes isKept_infoSample.isProper_toNode
  have integral : infoSample.toNode.IsIntegral := isKept_infoSample.isIntegral_toNode
  have read : ServerInfo.ofNode? infoSample.toNode = some infoSample :=
    isKept_infoSample.ofNode?_toNode
  obtain ⟨good, told⟩ := overlays_info rfl made rfl path answered collected parsed integral read
  have overlaid : Overlaid describedSample
      (describedSample.engine.link.send (Link.relayed askingSample)).2 infoSample _ :=
    .unlocked rfl rfl
  have count : (pathsSample.map fun entry => absolute entry.path).toFinset.card = 2 := by
    decide +kernel
  rw [count] at overlaid
  exact ⟨rfl, made, rfl, path, answered, collected, parsed, integral, read,
    good.2 ⟨_, overlaid⟩, told _ overlaid⟩

end SealGate.Gateway
