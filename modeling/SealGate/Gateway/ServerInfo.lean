import SealGate.Json.Parser
import SealGate.Json.Printer
import SealGate.Json.Record

/-! What the origin tells of itself. The known fields are all optional; whatever else the origin
says is kept as it is. Written, the known fields come first and the others follow in the order of
their keys. -/

namespace SealGate.Gateway

open Json

structure ServerInfo where
  name : Option String
  version : Option String
  buildId : Option String
  buildTime : Option String
  commitHash : Option String
  runtime : Option String
  readOnly : Option Bool
  repoSelected : Option Bool
  repoUnlocked : Option Bool
  storeType : Option String
  storeAccount : Option String
  repoId : Option String
  repoVersion : Option UInt32
  files : Option UInt64
  gpgUnlock : Option Bool
  /-- All other members, by key. -/
  others : List (String × Value)

namespace ServerInfo

def knownKeys : List String :=
  ["name", "version", "buildId", "buildTime", "commitHash", "runtime", "readOnly", "repoSelected",
    "repoUnlocked", "storeType", "storeAccount", "repoId", "repoVersion", "files", "gpgUnlock"]

def toNode (info : ServerInfo) : Node :=
  record [
    memberIf "name" (info.name.map .ofText),
    memberIf "version" (info.version.map .ofText),
    memberIf "buildId" (info.buildId.map .ofText),
    memberIf "buildTime" (info.buildTime.map .ofText),
    memberIf "commitHash" (info.commitHash.map .ofText),
    memberIf "runtime" (info.runtime.map .ofText),
    memberIf "readOnly" (info.readOnly.map .bool),
    memberIf "repoSelected" (info.repoSelected.map .bool),
    memberIf "repoUnlocked" (info.repoUnlocked.map .bool),
    memberIf "storeType" (info.storeType.map .ofText),
    memberIf "storeAccount" (info.storeAccount.map .ofText),
    memberIf "repoId" (info.repoId.map .ofText),
    memberIf "repoVersion" (info.repoVersion.map fun n => .ofNat n.toNat),
    memberIf "files" (info.files.map fun n => .ofNat n.toNat),
    memberIf "gpgUnlock" (info.gpgUnlock.map .bool),
    Value.memberNodes info.others]

/-- The members with unknown keys; each takes part in the nesting limit of the whole. -/
def others? (members : List (String × Node)) : Option (List (String × Value)) :=
  ((members.filter fun member => member.1 ∉ knownKeys).mapM fun member =>
    (Value.ofNode? (depthLimit - 1) member.2).map fun value => (member.1, value)).map orderMembers

/-- Reads an object; an array of the fields is not taken for one. -/
def ofNode? : Node → Option ServerInfo
  | .object members => do
    let members ← named? members
    let text (key : String) := (field? members key).bind (optional Node.text?)
    let flag (key : String) := (field? members key).bind (optional Node.bool?)
    return {
      name := ← text "name"
      version := ← text "version"
      buildId := ← text "buildId"
      buildTime := ← text "buildTime"
      commitHash := ← text "commitHash"
      runtime := ← text "runtime"
      readOnly := ← flag "readOnly"
      repoSelected := ← flag "repoSelected"
      repoUnlocked := ← flag "repoUnlocked"
      storeType := ← text "storeType"
      storeAccount := ← text "storeAccount"
      repoId := ← text "repoId"
      repoVersion := ← (field? members "repoVersion").bind (optional Node.uint32?)
      files := ← (field? members "files").bind (optional Node.uint64?)
      gpgUnlock := ← flag "gpgUnlock"
      others := ← others? members }
  | _ => none

end ServerInfo

end SealGate.Gateway
