import SealGate.Json.Parser
import SealGate.Json.Printer
import SealGate.Json.Record

/-! The settings store: JSON texts by name in one table of a database file. The file and the table
are made by the first access. An access may fail, and a failed access changes nothing. A setting
that was never stored has a default; a stored text that does not spell a value of the right kind is
an error. -/

namespace SealGate.Session

open Json

inductive SettingsError
  | database (reason : String)
  | value
  | directory (reason : String)
  | task (reason : String)
  deriving DecidableEq

def SettingsError.message : SettingsError → String
  | .database reason => "Settings database error: " ++ reason
  | .value => "Invalid setting value: malformed JSON"
  | .directory reason => "Cannot create settings directory: " ++ reason
  | .task reason => "Settings task failed: " ++ reason

/-- What is found at the place of the store. -/
inductive SettingsFile
  | missing
  /-- A file without the table. -/
  | blank
  | table (rows : List (String × String))
  deriving DecidableEq

namespace SettingsFile

def rows : SettingsFile → List (String × String)
  | .table rows => rows
  | _ => []

def lookup? (file : SettingsFile) (key : String) : Option String :=
  (file.rows.find? fun row => row.1 = key).map Prod.snd

/-- Stores a text in place of the one with the same name. -/
def put (file : SettingsFile) (key text : String) : SettingsFile :=
  .table ((key, text) :: file.rows.filter fun row => row.1 ≠ key)

/-- The file once it has its table. -/
def migrated (file : SettingsFile) : SettingsFile := .table file.rows

/-- The version of the table, if there is one. -/
def schemaVersion? : SettingsFile → Option Nat
  | .table _ => some 1
  | _ => none

end SettingsFile

structure Settings where
  file : SettingsFile
  /-- The failure of an access, by its number. -/
  fault? : Nat → Option SettingsError
  accesses : Nat

namespace Settings

/-- A store of which every access succeeds. -/
def ofFile (file : SettingsFile) : Settings := ⟨file, fun _ => none, 0⟩

/-- A store of which every access fails, whatever is at its place. -/
def broken (file : SettingsFile) (error : SettingsError) : Settings :=
  ⟨file, fun _ => some error, 0⟩

/-- Opens the file for one access. -/
def access (store : Settings) : Except SettingsError Unit × Settings :=
  match store.fault? store.accesses with
  | some error => (.error error, { store with accesses := store.accesses + 1 })
  | none => (.ok (), { store with accesses := store.accesses + 1, file := store.file.migrated })

/-- A stored value, if there is one. -/
def get {α : Type} (read : Node → Option α) (key : String) (store : Settings) :
    Except SettingsError (Option α) × Settings :=
  match store.access with
  | (.error error, store) => (.error error, store)
  | (.ok (), store) =>
    match store.file.lookup? key with
    | none => (.ok none, store)
    | some text =>
      match (Node.parse? text).bind read with
      | none => (.error .value, store)
      | some value => (.ok (some value), store)

def set (key : String) (value : Node) (store : Settings) : Except SettingsError Unit × Settings :=
  match store.access with
  | (.error error, store) => (.error error, store)
  | (.ok (), store) => (.ok (), { store with file := store.file.put key value.render })

def enabledKey : String := "wasm-enabled"

def themeKey : String := "theme"

/-- Whether decryption is to be enabled at the start; not, unless stored otherwise. -/
def enabled (store : Settings) : Except SettingsError Bool × Settings :=
  let (found, store) := store.get Node.bool? enabledKey
  (found.map (·.getD false), store)

def setEnabled (enabled : Bool) (store : Settings) : Except SettingsError Unit × Settings :=
  store.set enabledKey (.bool enabled)

/-- The theme; empty unless stored otherwise. -/
def theme (store : Settings) : Except SettingsError String × Settings :=
  let (found, store) := store.get Node.text? themeKey
  (found.map (·.getD ""), store)

def setTheme (name : String) (store : Settings) : Except SettingsError Unit × Settings :=
  store.set themeKey (.ofText name)

end Settings

end SealGate.Session
