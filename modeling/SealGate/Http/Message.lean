import SealGate.Http.Body
import SealGate.Http.Target

/-! Requests and responses. Header names are in lower case, and a name may stand several times; the
values of one name keep their order. Headers that describe a single connection are not relayed. -/

namespace SealGate.Http

abbrev Headers := List (String × Bytes)

namespace Headers

/-- Headers from names in any case. -/
def ofPairs (pairs : List (String × Bytes)) : Headers :=
  pairs.map fun header => (header.1.map Char.toLower, header.2)

/-- The values of a name in order. -/
def values (headers : Headers) (name : String) : List Bytes :=
  (headers.filter fun header => header.1 = name).map Prod.snd

/-- The first value of a name. -/
def get? (headers : Headers) (name : String) : Option Bytes := (headers.values name).head?

def without (headers : Headers) (names : List String) : Headers :=
  headers.filter fun header => header.1 ∉ names

/-- The headers with those others whose names they lack. -/
def orDefault (headers others : Headers) : Headers :=
  headers ++ others.filter fun other => other.1 ∉ headers.map Prod.fst

/-- The names that describe a single connection. -/
def connectionNames : List String :=
  ["connection", "transfer-encoding", "upgrade", "te", "trailer", "proxy-authorization",
    "proxy-authenticate", "keep-alive"]

/-- The headers to relay. -/
def endToEnd (headers : Headers) : Headers := headers.without connectionNames

/-- Bytes that a header value may have. -/
def isValueByte (b : UInt8) : Bool := (32 ≤ b.toNat && b.toNat ≠ 127) || b.toNat = 9

end Headers

structure Request where
  method : String
  target : Target
  headers : Headers
  body : Bytes
  deriving DecidableEq

namespace Request

def path (request : Request) : String := request.target.path

def query (request : Request) : Option String := request.target.query

end Request

/-- A response whose body may fail with an error of type `ε`. -/
structure Response (ε : Type) where
  status : Nat
  headers : Headers
  body : Body ε

end SealGate.Http
