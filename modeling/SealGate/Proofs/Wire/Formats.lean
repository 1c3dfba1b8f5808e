import SealGate.Gateway.Error
import SealGate.Gateway.FileDetails
import SealGate.Gateway.Unlock
import SealGate.Proofs.Json.Tagged
import SealGate.Proofs.Vault.Framing
import SealGate.Session.Message
import SealGate.Vault.Entry
import SealGate.Vault.KeySlot

/-! All that is written for others and read from them as JSON: messages, the catalog of a
repository and its key slots, the metadata of files, and the bodies of answers. Each kind of value
has a format, and each format is faithful: a value is read back from its text, whatever characters
and bytes it has and whichever of its fields are left out, because the record of its fields gives
each of them back. So a text that can be read at all is rewritten once, and never again. -/

namespace SealGate

namespace Json

/-- How values are written as trees and read from them. -/
structure Format (α : Type) where
  toNode : α → Node
  ofNode? : Node → Option α

namespace Format

variable {α : Type} (format : Format α)

def write (value : α) : String := (format.toNode value).render

def read? (text : String) : Option α := (Node.parse? text).bind format.ofNode?

/-- The text of the value that a text has. -/
def rewrite? (text : String) : Option String := (format.read? text).map format.write

/-- Trees of values have a text and give the values back. -/
structure IsFaithful : Prop where
  proper : ∀ value, (format.toNode value).IsProper
  read : ∀ value, format.ofNode? (format.toNode value) = some value

variable {format}

theorem IsFaithful.read?_write (faithful : format.IsFaithful) (value : α) :
    format.read? (format.write value) = some value := by
  rw [read?, write, Node.parse?_render (faithful.proper value), Option.bind_some, faithful.read]

theorem IsFaithful.rewrite?_rewrite? (faithful : format.IsFaithful) (text : String) :
    (format.rewrite? text).bind format.rewrite? = format.rewrite? text := by
  rw [rewrite?]
  cases format.read? text with
  | none => rfl
  | some value => rw [Option.map_some, Option.bind_some, rewrite?, faithful.read?_write]; rfl

end Format

end Json

open Json

/-! ### Records -/

namespace Vault

namespace Entry

variable (entry : Entry)

def fields : List (String × Option Node) :=
  [("path", some (.ofText entry.path)),
    ("isDir", if entry.isDir then some (.bool true) else none),
    ("fileId", entry.fileId.map .ofText), ("date", entry.date.map .ofText),
    ("mimeType", entry.mimeType.map .ofText),
    ("size", entry.size.map fun size => .ofNat size.toNat),
    ("digest", entry.digest.map .ofHex)]

theorem toNode_eq : entry.toNode = recordOf entry.fields := rfl

theorem ofNode?_toNode : ofNode? entry.toNode = some entry := by
  have isDir : defaulted false Node.bool? (if entry.isDir then some (.bool true) else none) =
      some entry.isDir := by cases entry.isDir <;> rfl
  rw [ofNode?, toNode_eq, fields?_of_names]
  · simp [fields, isDir]
  · rfl
  · decide

theorem isProper_toNode : entry.toNode.IsProper := by
  have isDir : IsSpelled (if entry.isDir then some (.bool true) else none) := by
    cases entry.isDir <;> simp [IsSpelled, Node.IsProper.bool]
  rw [toNode_eq]
  refine isProper_of_spelled ?_
  simp [fields, isDir, isSpelled_map, Node.isProper_ofText, Node.isProper_ofNat, isProper_ofHex]

end Entry

namespace IndexFile

variable (index : IndexFile)

theorem toNode_eq :
    index.toNode = recordOf [("files", some (Entry.listNode index.files))] := rfl

theorem ofNode?_toNode : ofNode? index.toNode = some index := by
  have files : Entry.listOfNode? (Entry.listNode index.files) = some index.files :=
    list?_of_written Entry.ofNode?_toNode index.files
  simp [ofNode?, toNode_eq, files]

theorem isProper_toNode : index.toNode.IsProper := by
  have files : (Entry.listNode index.files).IsProper :=
    isProper_list Entry.isProper_toNode index.files
  rw [toNode_eq]
  refine isProper_of_spelled ?_
  simp [files]

end IndexFile

namespace KeySlot

variable (slot : KeySlot)

theorem toNode_eq :
    slot.toNode = recordOf [("keyId", some (.ofText slot.keyId)), ("salt", some (.ofHex slot.salt)),
      ("wrappedKey", some (.ofHex slot.wrappedKey))] := rfl

theorem ofNode?_toNode : ofNode? slot.toNode = some slot := by
  rw [ofNode?, toNode_eq, fields?_of_names]
  · simp
  · rfl
  · decide

theorem isProper_toNode : slot.toNode.IsProper := by
  rw [toNode_eq]
  refine isProper_of_spelled ?_
  simp [Node.isProper_ofText, isProper_ofHex]

end KeySlot

namespace Repository

variable (info : Repository)

theorem toNode_eq :
    info.toNode = recordOf [("version", some (.ofNat info.version.toNat)),
      ("keys", some (.array (info.slots.map KeySlot.toNode)))] := rfl

theorem ofNode?_toNode : ofNode? info.toNode = some info := by
  have slots := list?_of_written KeySlot.ofNode?_toNode info.slots
  rw [ofNode?, toNode_eq, fields?_of_names]
  · simp [slots]
  · rfl
  · decide

theorem isProper_toNode : info.toNode.IsProper := by
  have slots := isProper_list KeySlot.isProper_toNode info.slots
  rw [toNode_eq]
  refine isProper_of_spelled ?_
  simp [slots, Node.isProper_ofNat]

end Repository

end Vault

namespace Gateway

namespace UnlockAnswer

variable (answer : UnlockAnswer)

theorem toNode_eq :
    answer.toNode = recordOf [("keyId", some (.ofText answer.keyId)),
      ("type", some (.ofText answer.kind))] := rfl

theorem ofNode?_toNode : ofNode? answer.toNode = some answer := by
  rw [ofNode?, toNode_eq, fields?_of_names]
  · simp
  · rfl
  · decide

theorem isProper_toNode : answer.toNode.IsProper := by
  rw [toNode_eq]
  refine isProper_of_spelled ?_
  simp [Node.isProper_ofText]

end UnlockAnswer

namespace FileDetails

variable (details : FileDetails)

def fields : List (String × Option Node) :=
  [("fileId", some (.ofText details.fileId)), ("folder", some (.ofText details.folder)),
    ("name", some (.ofText details.name)), ("date", details.date.map .ofText),
    ("mimeType", details.mimeType.map .ofText),
    ("size", details.size.map fun size => .ofNat size.toNat),
    ("digest", details.digest.map .ofHex)]

theorem toNode_eq : details.toNode = recordOf details.fields := rfl

theorem ofNode?_toNode : ofNode? details.toNode = some details := by
  rw [ofNode?, toNode_eq, fields?_of_names]
  · simp [fields]
  · rfl
  · decide

theorem isProper_toNode : details.toNode.IsProper := by
  rw [toNode_eq]
  refine isProper_of_spelled ?_
  simp [fields, isSpelled_map, Node.isProper_ofText, Node.isProper_ofNat, isProper_ofHex]

end FileDetails

namespace ErrorBody

variable (body : ErrorBody)

theorem toNode_eq : body.toNode = recordOf [("error", some (.ofText body.error))] := rfl

theorem ofNode?_toNode : ofNode? body.toNode = some body := by
  simp [ofNode?, toNode_eq]

theorem isProper_toNode : body.toNode.IsProper := by
  rw [toNode_eq]
  refine isProper_of_spelled ?_
  simp [Node.isProper_ofText]

end ErrorBody

end Gateway

/-! ### Messages -/

namespace Session

/-- The kind of a command and its fields. -/
def Command.parts : Command → String × List (String × Option Node)
  | .connected => ("connected", [])
  | .getFlag => ("get-wasm", [])
  | .setFlag enabled => ("set-wasm", [("enabled", some (.bool enabled))])
  | .getTheme => ("get-theme", [])
  | .setTheme theme => ("set-theme", [("theme", some (.ofText theme))])
  | .setMasterKey masterKey keyId =>
    ("set-master-key", [("masterKey", some (.ofHex masterKey)), ("keyId", some (.ofText keyId))])

theorem Command.toNode_eq (command : Command) :
    command.toNode = .message tag command.parts.1
      (command.parts.2.map fun field => memberIf field.1 field.2) := by
  cases command <;> rfl

theorem Command.ofFields?_parts (command : Command) :
    ofFields? command.parts.1 (recordOf command.parts.2) = some command := by
  cases command with
  | connected => rfl
  | getFlag => rfl
  | getTheme => rfl
  | setFlag enabled => simp [parts, ofFields?]
  | setTheme theme => simp [parts, ofFields?]
  | setMasterKey masterKey keyId =>
    simp only [parts, ofFields?]
    rw [fields?_of_names]
    · simp
    · rfl
    · decide

/-- No field of a command has the name of the tag, and all of them are values. -/
theorem Command.tagged?_toNode (command : Command) :
    command.toNode.tagged? tag = some (command.parts.1, recordOf command.parts.2) := by
  rw [toNode_eq]
  refine tagged?_message ?_ ?_
  · cases command <;> simp [parts, tag]
  · cases command <;> simp [parts, present]

theorem Command.ofNode?_toNode (command : Command) : ofNode? command.toNode = some command := by
  rw [ofNode?, tagged?_toNode]
  exact command.ofFields?_parts

theorem Command.isProper_toNode (command : Command) : command.toNode.IsProper := by
  have record : command.toNode = recordOf ((tag, some (.ofText command.parts.1)) ::
      command.parts.2) := by cases command <;> rfl
  rw [record]
  refine isProper_of_spelled ?_
  cases command <;> simp [parts, Node.isProper_ofText, isProper_ofHex, Node.IsProper.bool]

/-- The kind of a notification and its fields. -/
def Notification.parts : Notification → String × List (String × Option Node)
  | .flag enabled => ("wasm", [("enabled", some (.bool enabled))])
  | .theme name => ("theme", [("theme", some (.ofText name))])
  | .unlocked => ("unlocked", [])
  | .suspended => ("off", [])
  | .refused reason => ("error", [("error", some (.ofText reason))])

theorem Notification.toNode_eq (notification : Notification) :
    notification.toNode = .message tag notification.parts.1
      (notification.parts.2.map fun field => memberIf field.1 field.2) := by
  cases notification <;> rfl

theorem Notification.ofFields?_parts (notification : Notification) :
    ofFields? notification.parts.1 (recordOf notification.parts.2) = some notification := by
  cases notification with
  | unlocked => rfl
  | suspended => rfl
  | flag enabled => simp [parts, ofFields?]
  | theme name => simp [parts, ofFields?]
  | refused reason => simp [parts, ofFields?]

theorem Notification.tagged?_toNode (notification : Notification) :
    notification.toNode.tagged? tag =
      some (notification.parts.1, recordOf notification.parts.2) := by
  rw [toNode_eq]
  refine tagged?_message ?_ ?_
  · cases notification <;> simp [parts, tag]
  · cases notification <;> simp [parts, present]

theorem Notification.ofNode?_toNode (notification : Notification) :
    ofNode? notification.toNode = some notification := by
  rw [ofNode?, tagged?_toNode]
  exact notification.ofFields?_parts

theorem Notification.isProper_toNode (notification : Notification) :
    notification.toNode.IsProper := by
  have record : notification.toNode = recordOf ((tag, some (.ofText notification.parts.1)) ::
      notification.parts.2) := by cases notification <;> rfl
  rw [record]
  refine isProper_of_spelled ?_
  cases notification <;> simp [parts, Node.isProper_ofText, Node.IsProper.bool]

end Session

/-! ### All formats -/

/-- What is written as JSON and read back. -/
inductive WireType
  | command
  | notification
  | entry
  | index
  | keySlot
  | repository
  | fileInfo
  | unlockAnswer
  | fileDetails
  | errorBody

namespace WireType

/-- The values of a type. -/
def Carrier : WireType → Type
  | command => Session.Command
  | notification => Session.Notification
  | entry => Vault.Entry
  | index => Vault.IndexFile
  | keySlot => Vault.KeySlot
  | repository => Vault.Repository
  | fileInfo => Vault.FileInfo
  | unlockAnswer => Gateway.UnlockAnswer
  | fileDetails => Gateway.FileDetails
  | errorBody => Gateway.ErrorBody

def format : (type : WireType) → Format type.Carrier
  | command => ⟨Session.Command.toNode, Session.Command.ofNode?⟩
  | notification => ⟨Session.Notification.toNode, Session.Notification.ofNode?⟩
  | entry => ⟨Vault.Entry.toNode, Vault.Entry.ofNode?⟩
  | index => ⟨Vault.IndexFile.toNode, Vault.IndexFile.ofNode?⟩
  | keySlot => ⟨Vault.KeySlot.toNode, Vault.KeySlot.ofNode?⟩
  | repository => ⟨Vault.Repository.toNode, Vault.Repository.ofNode?⟩
  | fileInfo => ⟨Vault.FileInfo.toNode, Vault.FileInfo.ofNode?⟩
  | unlockAnswer => ⟨Gateway.UnlockAnswer.toNode, Gateway.UnlockAnswer.ofNode?⟩
  | fileDetails => ⟨Gateway.FileDetails.toNode, Gateway.FileDetails.ofNode?⟩
  | errorBody => ⟨Gateway.ErrorBody.toNode, Gateway.ErrorBody.ofNode?⟩

theorem isFaithful (type : WireType) : type.format.IsFaithful := by
  cases type with
  | command => exact ⟨Session.Command.isProper_toNode, Session.Command.ofNode?_toNode⟩
  | notification =>
    exact ⟨Session.Notification.isProper_toNode, Session.Notification.ofNode?_toNode⟩
  | entry => exact ⟨Vault.Entry.isProper_toNode, Vault.Entry.ofNode?_toNode⟩
  | index => exact ⟨Vault.IndexFile.isProper_toNode, Vault.IndexFile.ofNode?_toNode⟩
  | keySlot => exact ⟨Vault.KeySlot.isProper_toNode, Vault.KeySlot.ofNode?_toNode⟩
  | repository => exact ⟨Vault.Repository.isProper_toNode, Vault.Repository.ofNode?_toNode⟩
  | fileInfo => exact ⟨Vault.FileInfo.isProper_toNode, Vault.FileInfo.ofNode?_toNode⟩
  | unlockAnswer =>
    exact ⟨Gateway.UnlockAnswer.isProper_toNode, Gateway.UnlockAnswer.ofNode?_toNode⟩
  | fileDetails => exact ⟨Gateway.FileDetails.isProper_toNode, Gateway.FileDetails.ofNode?_toNode⟩
  | errorBody => exact ⟨Gateway.ErrorBody.isProper_toNode, Gateway.ErrorBody.ofNode?_toNode⟩

/-- Whatever is written is read back, so a text that can be read is rewritten to one that rewriting
leaves as it is. -/
theorem read_undoes_write (type : WireType) :
    (∀ value : type.Carrier, type.format.read? (type.format.write value) = some value) ∧
      ∀ text, (type.format.rewrite? text).bind type.format.rewrite? = type.format.rewrite? text :=
  ⟨type.isFaithful.read?_write, type.isFaithful.rewrite?_rewrite?⟩

/-- A list of fields is rewritten as a record, with the default of the field it leaves out. -/
example : command.format.rewrite? "[\"set-theme\"]" =
    some "\x7b\"message\":\"set-theme\",\"theme\":\"\"\x7d" := by cbv

end WireType

end SealGate
