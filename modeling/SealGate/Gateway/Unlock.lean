import SealGate.Json.Record

/-! The bodies of an unlock request and of its answer. Only a request with a passphrase that is not
empty can be served here; other kinds of keys are the origin's business. -/

namespace SealGate.Gateway

open Json

structure UnlockRequest where
  kind : String
  passphrase : Option String
  deriving DecidableEq

/-- The one kind of key that is unlocked here. -/
def passphraseKind : String := "passphrase"

namespace UnlockRequest

def ofNode? (node : Node) : Option UnlockRequest := do
  match ← node.fields? ["type", "passphrase"] with
  | [kind, passphrase] =>
    return ⟨← defaulted "" Node.text? kind, ← optional Node.text? passphrase⟩
  | _ => none

/-- The passphrase of a request that can be served. -/
def usable? (request : UnlockRequest) : Option String :=
  request.passphrase.filter fun passphrase => request.kind = passphraseKind ∧ passphrase ≠ ""

end UnlockRequest

structure UnlockAnswer where
  keyId : String
  kind : String
  deriving DecidableEq

namespace UnlockAnswer

def toNode (answer : UnlockAnswer) : Node :=
  record [member "keyId" (.ofText answer.keyId), member "type" (.ofText answer.kind)]

def ofNode? (node : Node) : Option UnlockAnswer := do
  match ← node.fields? ["keyId", "type"] with
  | [keyId, kind] => return ⟨← required Node.text? keyId, ← required Node.text? kind⟩
  | _ => none

end UnlockAnswer

end SealGate.Gateway
