import SealGate.Gateway.Error
import SealGate.Http.Message
import SealGate.Text.Percent

/-! Routes. While decryption is enabled a table of five rules tells which requests are handled here,
and while it is not a table of one; of several rules that match a path the first counts, and a
request that none matches is passed through. -/

namespace SealGate.Gateway

/-- Which paths a rule takes. -/
inductive Matcher
  /-- Paths that start with a text. -/
  | startsWith (text : String)
  /-- A path itself, and the paths of one line below it. -/
  | segment (path : String)
  deriving DecidableEq

def Matcher.accepts (matcher : Matcher) (path : String) : Bool :=
  match matcher with
  | .startsWith text => (Text.after? text.toList path.toList).isSome
  | .segment text =>
    match Text.after? text.toList path.toList with
    | some [] => true
    | some ('/' :: rest) => '\n' ∉ rest
    | _ => false

/-- What is done with the requests of a rule. -/
inductive Route
  | info
  | unlock
  | tree
  | metadata
  | file
  /-- An unlock by the origin. -/
  | originUnlock
  deriving DecidableEq

structure Rule where
  matcher : Matcher
  route : Route

def enabledRules : List Rule :=
  [⟨.startsWith "/api/info", .info⟩, ⟨.startsWith "/api/repo/unlock", .unlock⟩,
    ⟨.startsWith "/api/tree", .tree⟩, ⟨.startsWith "/api/metadata", .metadata⟩,
    ⟨.segment "/file", .file⟩]

def disabledRules : List Rule := [⟨.startsWith "/api/repo/unlock", .originUnlock⟩]

def rules (enabled : Bool) : List Rule := if enabled then enabledRules else disabledRules

/-- The route of a path, if a rule takes it. -/
def route? (enabled : Bool) (path : String) : Option Route :=
  ((rules enabled).find? (·.matcher.accepts path)).map Rule.route

def requireMethod (request : Http.Request) (method : String) : Except Error Unit :=
  if request.method = method then .ok () else .error .invalidMethod

/-- The rest of the path behind a text, its percent escapes decoded. -/
def pathAfter (request : Http.Request) (lead : String) : Except Error String :=
  match Text.after? lead.toList request.path.toList with
  | none => .error .invalidPath
  | some rest =>
    match Text.Percent.decode? (String.ofList rest) with
    | none => .error .invalidPath
    | some text => .ok text

/-- The part of a path up to its last slash; the root if it has none. -/
def parentFolder (path : String) : String :=
  match Text.uptoLast? '/' path.toList with
  | some folder => String.ofList folder
  | none => "/"

end SealGate.Gateway
