import SealGate.Json.Tagged
import SealGate.Text.Quoted

/-! What consumers and the gateway say to each other. A consumer sends commands and is told of
changes by notifications; both are tagged messages. The description of a command names a key by its
id and shows none of its bytes. -/

namespace SealGate.Session

open Json

inductive Command
  /-- A consumer that has just been attached asks for the theme and the flag. -/
  | connected
  | getFlag
  | setFlag (enabled : Bool)
  | getTheme
  | setTheme (theme : String)
  /-- Installs a master key without a passphrase. -/
  | setMasterKey (masterKey : Bytes) (keyId : String)
  deriving DecidableEq

inductive Notification
  /-- Whether decryption is enabled. -/
  | flag (enabled : Bool)
  | theme (name : String)
  | unlocked
  /-- A transition has begun; a flag follows when it is over. -/
  | suspended
  /-- A command of the addressed consumer was refused. -/
  | refused (reason : String)
  deriving DecidableEq

/-- The member that names the kind of a message. -/
def tag : String := "message"

namespace Command

def toNode : Command → Node
  | .connected => .message tag "connected" []
  | .getFlag => .message tag "get-wasm" []
  | .setFlag enabled => .message tag "set-wasm" [member "enabled" (.bool enabled)]
  | .getTheme => .message tag "get-theme" []
  | .setTheme theme => .message tag "set-theme" [member "theme" (.ofText theme)]
  | .setMasterKey masterKey keyId =>
    .message tag "set-master-key"
      [member "masterKey" (.ofHex masterKey), member "keyId" (.ofText keyId)]

/-- A command of a kind that has no fields. -/
def bare? (command : Command) (fields : Node) : Option Command :=
  if fields.isBare then some command else none

def ofFields? (kind : String) (fields : Node) : Option Command :=
  match kind with
  | "connected" => bare? .connected fields
  | "get-wasm" => bare? .getFlag fields
  | "get-theme" => bare? .getTheme fields
  | "set-wasm" => do
    match ← fields.fields? ["enabled"] with
    | [enabled] => return .setFlag (← required Node.bool? enabled)
    | _ => none
  | "set-theme" => do
    match ← fields.fields? ["theme"] with
    | [theme] => return .setTheme (← defaulted "" Node.text? theme)
    | _ => none
  | "set-master-key" => do
    match ← fields.fields? ["masterKey", "keyId"] with
    | [masterKey, keyId] =>
      return .setMasterKey (← required Node.hex? masterKey) (← required Node.text? keyId)
    | _ => none
  | _ => none

def ofNode? (node : Node) : Option Command :=
  (node.tagged? tag).bind fun (kind, fields) => ofFields? kind fields

def describe : Command → String
  | .connected => "Connected"
  | .getFlag => "GetWasm"
  | .setFlag enabled => "SetWasm \x7b enabled: " ++ (if enabled then "true" else "false") ++ " \x7d"
  | .getTheme => "GetTheme"
  | .setTheme theme => "SetTheme \x7b theme: " ++ Text.quoted theme ++ " \x7d"
  | .setMasterKey _ keyId => "SetMasterKey \x7b key_id: " ++ Text.quoted keyId ++ ", .. \x7d"

end Command

namespace Notification

def toNode : Notification → Node
  | .flag enabled => .message tag "wasm" [member "enabled" (.bool enabled)]
  | .theme name => .message tag "theme" [member "theme" (.ofText name)]
  | .unlocked => .message tag "unlocked" []
  | .suspended => .message tag "off" []
  | .refused reason => .message tag "error" [member "error" (.ofText reason)]

def bare? (notification : Notification) (fields : Node) : Option Notification :=
  if fields.isBare then some notification else none

def ofFields? (kind : String) (fields : Node) : Option Notification :=
  match kind with
  | "unlocked" => bare? .unlocked fields
  | "off" => bare? .suspended fields
  | "wasm" => do
    match ← fields.fields? ["enabled"] with
    | [enabled] => return .flag (← required Node.bool? enabled)
    | _ => none
  | "theme" => do
    match ← fields.fields? ["theme"] with
    | [name] => return .theme (← required Node.text? name)
    | _ => none
  | "error" => do
    match ← fields.fields? ["error"] with
    | [reason] => return .refused (← required Node.text? reason)
    | _ => none
  | _ => none

def ofNode? (node : Node) : Option Notification :=
  (node.tagged? tag).bind fun (kind, fields) => ofFields? kind fields

end Notification

end SealGate.Session
