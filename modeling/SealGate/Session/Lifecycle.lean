import SealGate.Session.Bus
import SealGate.Session.Settings
import SealGate.Session.Snapshot
import SealGate.Vault.KeySlot

/-! The lifecycle of decryption: enable, disable, unlock and key override, one message at a time.
The engine is loaded by the first enable that succeeds in loading it and kept from then on. Every
change of state is published as a snapshot with the next version; every attempt to enable or disable
ends with the flag being told to all consumers. -/

namespace SealGate.Session

inductive InvalidKey
  | emptyKey
  | emptyKeyId
  | reported (text : String)
  deriving DecidableEq

inductive Error
  | notEnabled
  | vault (cause : Vault.Error)
  | settings (cause : SettingsError)
  | invalidKey (cause : InvalidKey)
  | stopped
  deriving DecidableEq

def InvalidKey.message : InvalidKey → String
  | .emptyKey => "Master key must not be empty"
  | .emptyKeyId => "KeyId must not be empty"
  | .reported text => text

def Error.message : Error → String
  | .notEnabled => "Capability is not enabled"
  | .vault cause => cause.message
  | .settings cause => cause.message
  | .invalidKey cause => cause.message
  | .stopped => "Lifecycle manager has stopped"

/-- A decryption engine with states of type `σ` and index handles of type `ι`. -/
structure Engine (σ ι : Type) where
  /-- The state after loading. -/
  start : σ → σ
  unlock : String → σ → Except Vault.Error Vault.UnlockedKey × σ
  /-- An index handle bound to a key. -/
  index : Vault.MasterKey → Except Vault.Error ι
  /-- Drops everything decrypted under the current key. -/
  forget : σ → σ

structure Lifecycle (σ ι : Type) where
  engine : σ
  /-- The number of the load that succeeded. -/
  runtime : Option Nat
  loads : Nat
  /-- The failure of a load, by its number. -/
  loadFault? : Nat → Option Vault.Error
  settings : Settings
  bus : Bus
  snapshot : Snapshot ι
  /-- Earlier snapshots, the latest first. -/
  past : List (Snapshot ι)
  stopped : Bool

namespace Lifecycle

variable {σ ι : Type}

def initial (engine : σ) (loadFault? : Nat → Option Vault.Error) (settings : Settings) :
    Lifecycle σ ι :=
  ⟨engine, none, 0, loadFault?, settings, .empty, .initial, [], false⟩

def publish (l : Lifecycle σ ι) (phase : Phase ι) : Lifecycle σ ι :=
  { l with snapshot := ⟨l.snapshot.version + 1, phase⟩, past := l.snapshot :: l.past }

def broadcast (l : Lifecycle σ ι) (notification : Notification) : Lifecycle σ ι :=
  { l with bus := l.bus.broadcast notification }

def post (l : Lifecycle σ ι) (id : Nat) (notification : Notification) : Lifecycle σ ι :=
  { l with bus := (l.bus.post id notification).2 }

/-- The number of the loaded engine, which is loaded now if none is. -/
def load (engine : Engine σ ι) (l : Lifecycle σ ι) : Except Vault.Error Nat × Lifecycle σ ι :=
  match l.runtime with
  | some number => (.ok number, l)
  | none =>
    match l.loadFault? l.loads with
    | some error => (.error error, { l with loads := l.loads + 1 })
    | none =>
      (.ok l.loads,
        { l with loads := l.loads + 1, runtime := some l.loads, engine := engine.start l.engine })

/-- Stores the flag to start with next time. -/
def persist (enable : Bool) (l : Lifecycle σ ι) : Except Error Unit × Lifecycle σ ι :=
  let (result, settings) := l.settings.setEnabled enable
  (result.mapError .settings, { l with settings := settings })

/-- Enables or disables, unless it is so already, and stores the flag. A failed load ends disabled
and stores nothing. -/
def transition (engine : Engine σ ι) (enable : Bool) (l : Lifecycle σ ι) :
    Except Error Unit × Lifecycle σ ι :=
  match enable, l.snapshot.isEnabled with
  | true, false =>
    match (l.publish .enabling).load engine with
    | (.error error, l) => (.error (.vault error), l.publish .disabled)
    | (.ok number, l) => (l.publish (.enabled number none)).persist true
  | false, true => ({ l with engine := engine.forget l.engine }.publish .disabled).persist false
  | enable, _ => l.persist enable

/-- A transition, after which every consumer is told the flag; answers the flag. -/
def setEnabled (engine : Engine σ ι) (enable : Bool) (l : Lifecycle σ ι) :
    Except Error Bool × Lifecycle σ ι :=
  let (result, l) := l.transition engine enable
  let enabled := l.snapshot.isEnabled
  (result.map fun _ => enabled, l.broadcast (.flag enabled))

/-- Replaces key, key id and index at once, or changes nothing. -/
def install (engine : Engine σ ι) (load : Nat) (key : Vault.MasterKey) (keyId : String)
    (l : Lifecycle σ ι) : Except Error Unit × Lifecycle σ ι :=
  if key.bytes = [] then (.error (.invalidKey .emptyKey), l)
  else if keyId = "" then (.error (.invalidKey .emptyKeyId), l)
  else match engine.index key with
    | .error error => (.error (.vault error), l)
    | .ok index =>
      (.ok (), { l with engine := engine.forget l.engine }.publish
        (.enabled load (some ⟨key, keyId, index⟩)))

/-- Unlocks with a passphrase; answers the key id. -/
def unlock (engine : Engine σ ι) (passphrase : String) (l : Lifecycle σ ι) :
    Except Error String × Lifecycle σ ι :=
  match l.snapshot.load? with
  | none => (.error .notEnabled, l)
  | some load =>
    match engine.unlock passphrase l.engine with
    | (.error error, state) => (.error (.vault error), { l with engine := state })
    | (.ok unlocked, state) =>
      let (result, l) := { l with engine := state }.install engine load unlocked.key unlocked.keyId
      (result.map fun _ => unlocked.keyId, l)

def setMasterKey (engine : Engine σ ι) (key : Vault.MasterKey) (keyId : String)
    (l : Lifecycle σ ι) : Except Error Unit × Lifecycle σ ι :=
  match l.snapshot.load? with
  | none => (.error .notEnabled, l)
  | some load => l.install engine load key keyId

def tellFlag (id : Nat) (l : Lifecycle σ ι) : Lifecycle σ ι :=
  l.post id (.flag l.snapshot.isEnabled)

/-- Tells one consumer the theme, the empty one if it cannot be read. -/
def tellTheme (id : Nat) (l : Lifecycle σ ι) : Lifecycle σ ι :=
  let (theme, settings) := l.settings.theme
  { l with settings := settings }.post id (.theme (theme.toOption.getD ""))

def handle (engine : Engine σ ι) (envelope : Envelope) (l : Lifecycle σ ι) : Lifecycle σ ι :=
  match envelope.command with
  | .connected => (l.tellTheme envelope.sender).tellFlag envelope.sender
  | .getFlag => l.tellFlag envelope.sender
  | .getTheme => l.tellTheme envelope.sender
  | .setFlag enabled => ((l.broadcast .suspended).setEnabled engine enabled).2
  | .setTheme name => { l with settings := (l.settings.setTheme name).2 }.broadcast (.theme name)
  | .setMasterKey key keyId =>
    match l.setMasterKey engine ⟨key⟩ keyId with
    | (.ok (), l) => l
    | (.error error, l) => l.post envelope.sender (.refused error.message)

/-- Takes the next command, if one waits, and carries it out. -/
def step (engine : Engine σ ι) (l : Lifecycle σ ι) : Lifecycle σ ι :=
  match l.bus.next? with
  | (none, _) => l
  | (some envelope, bus) => { l with bus := bus }.handle engine envelope

/-- Carries out a number of commands. -/
def steps (engine : Engine σ ι) : Nat → Lifecycle σ ι → Lifecycle σ ι
  | 0, l => l
  | n + 1, l => steps engine n (l.step engine)

/-- Carries out every command that waits. -/
def settle (engine : Engine σ ι) (l : Lifecycle σ ι) : Lifecycle σ ι :=
  l.steps engine l.bus.queue.length

/-- Restores the stored flag. -/
def startup (engine : Engine σ ι) (l : Lifecycle σ ι) : Lifecycle σ ι :=
  let (stored, settings) := l.settings.enabled
  let l := { l with settings := settings }
  if stored.toOption.getD false then (l.setEnabled engine true).2 else l

/-- Ends the lifecycle: commands and requests are refused, and the last snapshot stays. -/
def stop (l : Lifecycle σ ι) : Lifecycle σ ι := { l with bus := l.bus.close, stopped := true }

/-- A new lifecycle on the same settings and loader; nothing decrypted is left. -/
def restart (engine : Engine σ ι) (l : Lifecycle σ ι) : Lifecycle σ ι :=
  { initial (engine.forget l.engine) l.loadFault? l.settings with loads := l.loads }.startup engine

/-- The request of a caller to enable or disable. -/
def requestEnabled (engine : Engine σ ι) (enable : Bool) (l : Lifecycle σ ι) :
    Except Error Bool × Lifecycle σ ι :=
  if l.stopped then (.error .stopped, l) else l.setEnabled engine enable

/-- The request of a caller to unlock. -/
def requestUnlock (engine : Engine σ ι) (passphrase : String) (l : Lifecycle σ ι) :
    Except Error String × Lifecycle σ ι :=
  if l.stopped then (.error .stopped, l) else l.unlock engine passphrase

end Lifecycle

end SealGate.Session
