import SealGate.Shell.Address
import SealGate.Text.Split

/-! The command line. Four options take a value, attached by an equals sign or as the next argument;
two switches take none. Three of the options may come from the environment instead. The value of an
option is looked at when the next argument that is known comes, or at the end; an argument nobody
knows counts before that. -/

namespace SealGate.Shell

open Text

/-- Why the command line does not start the gateway. -/
inductive Stop
  | help
  | version
  /-- An option without its value, or with an empty one that may not be. -/
  | missingValue
  | invalidValue
  /-- A value for a switch. -/
  | unexpectedValue
  | unknownArgument
  | repeated
  deriving DecidableEq

/-- The exit code of a run that does not start. -/
def Stop.exitCode : Stop → UInt32
  | .help => 0
  | .version => 0
  | _ => 2

/-- Options that take a value. -/
inductive Setting
  | listen
  | origin
  | dataDirectory
  | timeout
  deriving DecidableEq

inductive Switch
  | enable
  | console
  | help
  | version
  deriving DecidableEq

/-- What has been given. -/
structure Given where
  listen : Option Address
  origin : Option String
  dataDirectory : Option String
  timeout : Option UInt64
  enable : Bool
  console : Bool

/-- An option whose value has still to come or to be looked at. -/
inductive Pending
  | nothing
  | awaiting (setting : Setting)
  | holding (setting : Setting) (value : String)

namespace Given

def nothing : Given := ⟨none, none, none, none, false, false⟩

/-- Puts a value into an empty place. -/
def fill {α : Type} (place : Option α) (value : Except Stop α) : Except Stop (Option α) :=
  match place with
  | some _ => .error .repeated
  | none => value.map some

def orInvalid {α : Type} (value : Option α) : Except Stop α := value.elim (.error .invalidValue) .ok

def store (given : Given) (setting : Setting) (value : String) : Except Stop Given :=
  match setting with
  | .listen =>
    (fill given.listen (orInvalid (Address.parse? value))).map ({ given with listen := · })
  | .origin => (fill given.origin (.ok value)).map ({ given with origin := · })
  | .dataDirectory =>
    (fill given.dataDirectory (if value = "" then .error .missingValue else .ok value)).map
      ({ given with dataDirectory := · })
  | .timeout =>
    (fill given.timeout (orInvalid (Decimal.numeral? value.toList))).map
      ({ given with timeout := · })

def flip (given : Given) (switch : Switch) : Except Stop Given :=
  match switch with
  | .enable => if given.enable then .error .repeated else .ok { given with enable := true }
  | .console => if given.console then .error .repeated else .ok { given with console := true }
  | .help => .error .help
  | .version => .error .version

def resolve (given : Given) : Pending → Except Stop Given
  | .nothing => .ok given
  | .awaiting _ => .error .missingValue
  | .holding setting value => given.store setting value

end Given

/-- What an argument is. -/
inductive Argument
  /-- The end of the options. -/
  | stop
  | setting (setting : Setting) (value : Option String)
  | switch (switch : Switch) (value : Option String)
  | unknown
  | plain (text : String)

def setting? : String → Option Setting
  | "listen" => some .listen
  | "origin" => some .origin
  | "data-dir" => some .dataDirectory
  | "timeout-secs" => some .timeout
  | _ => none

def switch? : String → Option Switch
  | "enable" => some .enable
  | "console" => some .console
  | "help" => some .help
  | "version" => some .version
  | _ => none

/-- An argument behind its two hyphens. -/
def Argument.ofLong (text : List Char) : Argument :=
  let (name, value) := match splitFirst '=' text with
    | some (name, value) => (name, some (String.ofList value))
    | none => (text, none)
  match setting? (String.ofList name), switch? (String.ofList name) with
  | some found, _ => .setting found value
  | none, some found => .switch found value
  | none, none => .unknown

def Argument.ofText (text : String) : Argument :=
  match text.toList with
  | ['-', '-'] => .stop
  | '-' :: '-' :: rest => .ofLong rest
  | '-' :: 'h' :: _ => .switch .help none
  | '-' :: 'V' :: _ => .switch .version none
  | '-' :: _ :: _ => .unknown
  | _ => .plain text

/-- Reads arguments from left to right. -/
def scan (given : Given) (pending : Pending) : List String → Except Stop Given
  | [] => given.resolve pending
  | text :: rest =>
    match Argument.ofText text with
    | .stop => if rest.isEmpty then given.resolve pending else .error .unknownArgument
    | .unknown => .error .unknownArgument
    | .switch _ (some _) => .error .unexpectedValue
    | .switch switch none => do
      let given ← (← given.resolve pending).flip switch
      scan given .nothing rest
    | .setting setting (some value) => do
      let given ← (← given.resolve pending).store setting value
      scan given .nothing rest
    | .setting setting none => do
      let given ← given.resolve pending
      scan given (.awaiting setting) rest
    | .plain value =>
      match pending with
      | .awaiting setting => scan given (.holding setting value) rest
      | _ => .error .unknownArgument

/-! ### The configuration -/

structure Config where
  listen : Address
  origin : String
  dataDirectory : Option String
  /-- Seconds that the origin has for an answer. -/
  timeout : UInt64
  /-- Enable at the start, whatever was stored. -/
  enable : Bool
  console : Bool

/-- The values of the environment, by their names. -/
abbrev Environment := String → Option String

def listenVariable : String := "VAULTGATE_LISTEN"

def originVariable : String := "VAULTGATE_ORIGIN"

def dataDirectoryVariable : String := "VAULTGATE_DATA_DIR"

/-- Takes an option from the environment, unless it has been given. -/
def fromEnvironment (isGiven : Bool) (value : Option String) (setting : Setting) (given : Given) :
    Except Stop Given :=
  match isGiven, value with
  | false, some value => given.store setting value
  | _, _ => .ok given

def complete (env : Environment) (given : Given) : Except Stop Given := do
  let given ← fromEnvironment given.listen.isSome (env listenVariable) .listen given
  let given ← fromEnvironment given.origin.isSome (env originVariable) .origin given
  fromEnvironment given.dataDirectory.isSome (env dataDirectoryVariable) .dataDirectory given

namespace Config

def defaultListen : Address := .v4 #v[127, 0, 0, 1] 3130

def defaultOrigin : String := "http://127.0.0.1:3129"

def defaultTimeout : UInt64 := 30

/-- Fills in defaults; slashes at the end of the origin are dropped, and a timeout is at least a
second. -/
def ofGiven (given : Given) : Config where
  listen := given.listen.getD defaultListen
  origin := String.ofList (dropTrailing '/' (given.origin.getD defaultOrigin).toList)
  dataDirectory := given.dataDirectory
  timeout := max (given.timeout.getD defaultTimeout) 1
  enable := given.enable
  console := given.console

def parse (args : List String) (env : Environment) : Except Stop Config := do
  return ofGiven (← complete env (← scan .nothing .nothing args))

def databaseName : String := "settings.db"

/-- The path of the settings database in a directory. -/
def databaseIn (directory : String) : String :=
  if directory.toList.getLast? = some '/' then directory ++ databaseName
  else directory ++ "/" ++ databaseName

/-- The path of the settings database, if a directory was given. -/
def settingsPath? (config : Config) : Option String := config.dataDirectory.map databaseIn

end Config

end SealGate.Shell
