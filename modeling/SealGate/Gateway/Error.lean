import SealGate.Http.Message
import SealGate.Json.Parser
import SealGate.Json.Printer
import SealGate.Session.Lifecycle

/-! What goes wrong while a request is handled, and how the client is told. The answer to a failed
request is a JSON record with the message; its status is 400 unless the error brings its own. A
repository that is locked and one that is not enabled read the same. -/

namespace SealGate.Gateway

open Json

/-- Why a request is refused for what it asks. -/
inductive InvalidBody
  | unsupportedUnlock
  | request (cause : Vault.InvalidRequest)
  | key (cause : Session.InvalidKey)
  | reported (text : String)
  deriving DecidableEq

/-- What fails behind the gateway. -/
inductive Failure
  | emptyAnswer
  | invalidAnswer
  | vault (cause : Vault.Error)
  | session (cause : Session.Error)
  | reported (text : String)
  deriving DecidableEq

inductive Error
  | invalidMethod
  | notUnlocked
  | notFound
  | invalidPath
  | invalidBody (cause : InvalidBody)
  | failure (cause : Failure)
  | timeout
  | status (code : Nat) (message : String)
  deriving DecidableEq

def InvalidBody.message : InvalidBody → String
  | .unsupportedUnlock => "Capability-mediated unlock supports passphrases only"
  | .request cause => cause.message
  | .key cause => cause.message
  | .reported text => text

def Failure.message : Failure → String
  | .emptyAnswer => "Response is empty"
  | .invalidAnswer => "Invalid response from origin: " ++ Vault.malformedText
  | .vault cause => cause.message
  | .session cause => cause.message
  | .reported text => text

namespace Error

def message : Error → String
  | .invalidMethod => "Invalid request method"
  | .notUnlocked => "Repository is not unlocked"
  | .notFound => "File not found"
  | .invalidPath => "Invalid request path"
  | .invalidBody cause => cause.message
  | .failure cause => cause.message
  | .timeout => Vault.timeoutMessage
  | .status _ message => message

def code : Error → Nat
  | .status code _ => code
  | _ => 400

def ofVault : Vault.Error → Error
  | .notFound => .notFound
  | .timeout => .timeout
  | .invalidRequest cause => .invalidBody (.request cause)
  | cause => .failure (.vault cause)

def ofSession : Session.Error → Error
  | .notEnabled => .notUnlocked
  | .vault cause => ofVault cause
  | .invalidKey cause => .invalidBody (.key cause)
  | cause => .failure (.session cause)

end Error

/-- A response with a JSON body. -/
def jsonResponse {ε : Type} (status : Nat) (node : Node) : Http.Response ε :=
  ⟨status, [("content-type", Bytes.ofText "application/json")], .ofBytes node.toBytes⟩

/-- The body of the answer to a failed request. -/
structure ErrorBody where
  error : String
  deriving DecidableEq

namespace ErrorBody

def toNode (body : ErrorBody) : Node := record [member "error" (.ofText body.error)]

def ofNode? (node : Node) : Option ErrorBody := do
  match ← node.fields? ["error"] with
  | [error] => return ⟨← required Node.text? error⟩
  | _ => none

end ErrorBody

def Error.toResponse {ε : Type} (error : Error) : Http.Response ε :=
  jsonResponse error.code (ErrorBody.mk error.message).toNode

end SealGate.Gateway
