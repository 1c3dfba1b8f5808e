import SealGate.Gateway.FileDetails
import SealGate.Gateway.Route
import SealGate.Gateway.ServerInfo
import SealGate.Gateway.Unlock
import SealGate.Reader

/-! The gateway: the lifecycle of decryption over the reader of a repository. A handler answers the
requests of one route. What needs the key is refused before anything is fetched unless the
repository is unlocked. -/

namespace SealGate

/-- The gateway's state: the lifecycle with the reader as its engine. -/
abbrev Gateway := Session.Lifecycle Reader Reader.Index

namespace Gateway

open Http Session

/-- Why the body of a response breaks off. -/
inductive BodyFault
  | vault (cause : Vault.Error)
  | origin (fault : Origin.ReadFault)
  deriving DecidableEq

def BodyFault.message : BodyFault → String
  | .vault cause => cause.message
  | .origin _ => Vault.OriginFault.message .reading

/-- A response to a client, or the error to tell it, and the state afterwards. -/
abbrev Outcome := Except Error (Response BodyFault) × Gateway

/-- The reader as an engine of the lifecycle. -/
def readerEngine : Engine Reader Reader.Index where
  start reader := Reader.ofLink reader.link
  unlock := Reader.unlock
  index := Reader.Index.ofKey
  forget := Reader.forget

/-- A gateway that has just started. -/
def start (link : Origin.Link) (loadFault? : Nat → Option Vault.Error) (settings : Settings) :
    Gateway :=
  (Lifecycle.initial (Reader.ofLink link) loadFault? settings).startup readerEngine

/-- Asks the index of an unlocked repository. -/
def askIndex {α : Type} (ask : Reader.Index → Origin.Link → Reader.Index.Outcome α)
    (unlocked : Unlocked Reader.Index) (g : Gateway) : Except Error α × Gateway :=
  let (result, index, link) := ask unlocked.index g.engine.link
  (result.mapError .ofVault,
    { g with engine := { g.engine with link := link }, snapshot := g.snapshot.withIndex index })

/-- Relays a request to the origin. -/
def relay (request : Request) (g : Gateway) : Outcome :=
  let (result, link) := g.engine.link.relay request
  ((result.map fun response =>
      { response with body := response.body.mapError .origin }).mapError .ofVault,
    { g with engine := { g.engine with link := link } })

/-- What an unlocked repository changes in the origin's description of itself. -/
def ServerInfo.unlocked (info : ServerInfo) (files : Nat) : ServerInfo :=
  { info with repoUnlocked := some true, files := some (UInt64.ofNat files), readOnly := some true }

/-- The origin's description of itself in an answer. -/
def infoOf (response : Response BodyFault) : Except Error ServerInfo :=
  match response.body.collect with
  | .error fault => .error (.failure (.vault (.origin (.reported fault.message))))
  | .ok [] => .error (.failure .emptyAnswer)
  | .ok body =>
    match (Json.Node.ofBytes? body).bind ServerInfo.ofNode? with
    | none => .error (.failure .invalidAnswer)
    | some info => .ok info

/-- The origin's description of itself with what is known here. -/
def handleInfo (request : Request) (g : Gateway) : Outcome :=
  match requireMethod request "GET" with
  | .error error => (.error error, g)
  | .ok () =>
    match g.relay request with
    | (.error error, g) => (.error error, g)
    | (.ok response, g) =>
      match infoOf response with
      | .error error => (.error error, g)
      | .ok info =>
        match g.snapshot.unlocked? with
        | none => (.ok (jsonResponse 200 { info with repoUnlocked := some false }.toNode), g)
        | some unlocked =>
          let (files, g) := g.askIndex Reader.Index.size unlocked
          (files.map fun files => jsonResponse 200 (info.unlocked files).toNode, g)

/-- The passphrase in the body of an unlock request. -/
def passphraseOf (request : Request) : Except Error String := do
  requireMethod request "POST"
  let body := (Json.Node.ofBytes? request.body).bind UnlockRequest.ofNode?
  match body.bind UnlockRequest.usable? with
  | none => throw (.invalidBody .unsupportedUnlock)
  | some passphrase => return passphrase

/-- Unlocks here and tells the consumers. -/
def handleUnlock (request : Request) (g : Gateway) : Outcome :=
  match passphraseOf request with
  | .error error => (.error error, g)
  | .ok passphrase =>
    match g.requestUnlock readerEngine passphrase with
    | (.error error, g) => (.error (.ofSession error), g)
    | (.ok keyId, g) =>
      (.ok (jsonResponse 200 (UnlockAnswer.mk keyId passphraseKind).toNode), g.broadcast .unlocked)

/-- The unlocked repository that a reading request needs. -/
def requireUnlocked (request : Request) (g : Gateway) : Except Error (Unlocked Reader.Index) := do
  requireMethod request "GET"
  match g.snapshot.unlocked? with
  | none => throw .notUnlocked
  | some unlocked => return unlocked

/-- The listing of a folder. -/
def handleTree (request : Request) (g : Gateway) : Outcome :=
  match (do return (← g.requireUnlocked request, ← pathAfter request "/api/tree")) with
  | .error error => (.error error, g)
  | .ok (unlocked, path) =>
    let (entries, g) := g.askIndex (Reader.Index.listFolder (Vault.absolute path)) unlocked
    (entries.map fun entries => jsonResponse 200 (Vault.Entry.listNode entries), g)

/-- The entry that a text names by its file id or by its path. -/
def askEntry (target : String) :
    Reader.Index → Origin.Link → Reader.Index.Outcome (Option Vault.Entry) :=
  if Reader.isFileId target.toList then Reader.Index.byId target
  else Reader.Index.byPath (Vault.absolute target)

/-- What is known of a file from its entry and from itself. -/
def detailsOf (entry : Vault.Entry) (fileId : String) (facts : Reader.FileFacts) : FileDetails :=
  ⟨fileId, parentFolder entry.path, facts.name, entry.date, facts.mimeType, facts.size,
    entry.digest⟩

/-- What is known of one file. -/
def handleMetadata (request : Request) (g : Gateway) : Outcome :=
  match (do return (← g.requireUnlocked request, ← pathAfter request "/api/metadata/")) with
  | .error error => (.error error, g)
  | .ok (unlocked, target) =>
    match g.askIndex (askEntry target) unlocked with
    | (.error error, g) => (.error error, g)
    | (.ok found, g) =>
      match found.bind fun entry => entry.fileId.map fun fileId => (entry, fileId) with
      | none => (.error .notFound, g)
      | some (entry, fileId) =>
        let (facts, reader) := g.engine.facts unlocked.key fileId
        let details := facts.map (detailsOf entry fileId)
        ((details.map fun details => jsonResponse 200 details.toNode).mapError .ofVault,
          { g with engine := reader })

/-- The content of a file. -/
def handleFile (request : Request) (g : Gateway) : Outcome :=
  match g.requireUnlocked request with
  | .error error => (.error error, g)
  | .ok unlocked =>
    let (result, reader) := g.engine.decrypt unlocked.key request
    ((result.map fun response =>
        { response with body := response.body.mapError .vault }).mapError .ofVault,
      { g with engine := reader })

def isSuccess (status : Nat) : Bool := 200 ≤ status && status < 300

/-- Lets the origin unlock and tells the consumers if it did. -/
def handleOriginUnlock (request : Request) (g : Gateway) : Outcome :=
  match g.relay request with
  | (.error error, g) => (.error error, g)
  | (.ok response, g) =>
    (.ok response, if isSuccess response.status then g.broadcast .unlocked else g)

def handle (route : Route) (request : Request) (g : Gateway) : Outcome :=
  match route with
  | .info => g.handleInfo request
  | .unlock => g.handleUnlock request
  | .tree => g.handleTree request
  | .metadata => g.handleMetadata request
  | .file => g.handleFile request
  | .originUnlock => g.handleOriginUnlock request

end Gateway

end SealGate
