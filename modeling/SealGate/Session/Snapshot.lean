import SealGate.Text.Quoted
import SealGate.Vault.Header

/-! The state that request handlers see. A snapshot has a version and a phase. Key, key id and index
are held together, so that they come and go as one. -/

namespace SealGate.Session

/-- An unlocked repository with an index handle of type `ι`. -/
structure Unlocked (ι : Type) where
  key : Vault.MasterKey
  keyId : String
  index : ι

inductive Phase (ι : Type)
  | disabled
  /-- The engine is being loaded. -/
  | enabling
  /-- The engine of a numbered load is in use. -/
  | enabled (load : Nat) (unlocked : Option (Unlocked ι))

structure Snapshot (ι : Type) where
  version : Nat
  phase : Phase ι

namespace Snapshot

variable {ι : Type}

def initial : Snapshot ι := ⟨0, .disabled⟩

/-- Only an engine that has been loaded counts as enabled. -/
def isEnabled (snapshot : Snapshot ι) : Bool :=
  match snapshot.phase with
  | .enabled _ _ => true
  | _ => false

def load? (snapshot : Snapshot ι) : Option Nat :=
  match snapshot.phase with
  | .enabled load _ => some load
  | _ => none

def unlocked? (snapshot : Snapshot ι) : Option (Unlocked ι) :=
  match snapshot.phase with
  | .enabled _ unlocked => unlocked
  | _ => none

/-- Puts an index handle in place of the one in use. -/
def withIndex (snapshot : Snapshot ι) (index : ι) : Snapshot ι :=
  match snapshot.phase with
  | .enabled load (some unlocked) =>
    { snapshot with phase := .enabled load (some { unlocked with index := index }) }
  | _ => snapshot

/-- The name of the phase. -/
def label (snapshot : Snapshot ι) : String :=
  match snapshot.phase with
  | .disabled => "disabled"
  | .enabling => "enabling"
  | .enabled _ none => "enabled, locked"
  | .enabled _ (some _) => "enabled, unlocked"

def status (snapshot : Snapshot ι) : String :=
  match snapshot.phase with
  | .disabled => "Disabled"
  | .enabling => "Enabling"
  | .enabled _ none => "Locked"
  | .enabled _ (some _) => "Unlocked"

/-- A diagnostic line that names the key by its id. -/
def describe (snapshot : Snapshot ι) : String :=
  let keyId := match snapshot.unlocked? with
    | some unlocked => "Some(" ++ Text.quoted unlocked.keyId ++ ")"
    | none => "None"
  "Snapshot \x7b version: " ++ Text.Decimal.render snapshot.version ++ ", status: " ++
    snapshot.status ++ ", key_id: " ++ keyId ++ " \x7d"

end Snapshot

end SealGate.Session
