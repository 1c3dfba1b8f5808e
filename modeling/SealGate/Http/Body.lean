import SealGate.Bytes

/-! Message bodies. A buffered body is in memory as a whole and is handed out in one frame; a
streamed body is handed out chunk by chunk as it comes and may break off with an error. -/

namespace SealGate.Http

/-- A body that may fail with an error of type `ε`. -/
inductive Body (ε : Type)
  /-- The whole body; nothing once it has been handed out. -/
  | buffered (bytes : Option Bytes)
  | streamed (items : List (Except ε Bytes))

namespace Body

variable {ε : Type}

def empty : Body ε := .buffered none

def ofBytes (bytes : Bytes) : Body ε := .buffered (some bytes)

/-- The next frame, if there is one, and the body behind it. -/
def frame : Body ε → Option (Except ε Bytes) × Body ε
  | .buffered none => (none, .buffered none)
  | .buffered (some bytes) => (if bytes = [] then none else some (.ok bytes), .buffered none)
  | .streamed [] => (none, .streamed [])
  | .streamed (item :: rest) => (some item, .streamed rest)

/-- Whether the body is known to be over. -/
def isEnd : Body ε → Bool
  | .buffered bytes => (bytes.getD []).isEmpty
  | .streamed _ => false

/-- Bounds on the number of bytes to come; a streamed body has no upper one. -/
def sizeHint : Body ε → Nat × Option Nat
  | .buffered bytes => ((bytes.getD []).length, some (bytes.getD []).length)
  | .streamed _ => (0, none)

/-- The chunks in one piece, or the first error among them. -/
def join : List (Except ε Bytes) → Except ε Bytes
  | [] => .ok []
  | .error error :: _ => .error error
  | .ok chunk :: rest => (join rest).map (chunk ++ ·)

/-- What is left of the body, or its first error. -/
def collect : Body ε → Except ε Bytes
  | .buffered bytes => .ok (bytes.getD [])
  | .streamed items => join items

/-- The chunks of the body as they are handed out. -/
def items : Body ε → List (Except ε Bytes)
  | .buffered bytes => if bytes.getD [] = [] then [] else [.ok (bytes.getD [])]
  | .streamed items => items

def mapError {δ : Type} (change : ε → δ) : Body ε → Body δ
  | .buffered bytes => .buffered bytes
  | .streamed items => .streamed (items.map (·.mapError change))

end Body

end SealGate.Http
