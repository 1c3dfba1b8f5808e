import SealGate.Json.Value
import SealGate.Text.Hex

/-! Records. A record is written as an object of its fields in their order, without the optional
fields that are absent. It is read from an object, where fields nobody knows are skipped and a known
field that is repeated is refused, or from an array of its fields in order, which may stop early. -/

namespace SealGate.Json

/-- Members by the text of their key; none if some key has no text. -/
def named? (members : List (List Piece × Node)) : Option (List (String × Node)) :=
  members.mapM fun member => (keyText? member.1).map fun key => (key, member.2)

/-- The nodes of the members with a given key. -/
def membersOf (members : List (String × Node)) (key : String) : List Node :=
  (members.filter fun member => member.1 = key).map Prod.snd

/-- The node of a field that may occur at most once. -/
def field? (members : List (String × Node)) (key : String) : Option (Option Node) :=
  match membersOf members key with
  | [] => some none
  | [node] => some (some node)
  | _ => none

namespace Node

/-- The nodes of the named fields of a record, absent ones as `none`. -/
def fields? (names : List String) : Node → Option (List (Option Node))
  | .object members => (named? members).bind fun members => names.mapM (field? members)
  | .array elements =>
    if names.length < elements.length then none
    else some (elements.map some ++ List.replicate (names.length - elements.length) none)
  | _ => none

def hex? (node : Node) : Option Bytes := node.text?.bind Text.Hex.decode?

def ofHex (bytes : Bytes) : Node := ofText (Text.Hex.encode bytes)

/-- Every element of an array. -/
def list? {α : Type} (read : Node → Option α) : Node → Option (List α)
  | .array elements => elements.mapM read
  | _ => none

end Node

/-- A field that has to be there. -/
def required {α : Type} (read : Node → Option α) (field : Option Node) : Option α := field.bind read

/-- A field with a value to use when it is absent. -/
def defaulted {α : Type} (fallback : α) (read : Node → Option α) : Option Node → Option α
  | none => some fallback
  | some node => read node

/-- A field that may be absent or null. -/
def optional {α : Type} (read : Node → Option α) : Option Node → Option (Option α)
  | none => some none
  | some .null => some none
  | some node => (read node).map some

/-- A field to write. -/
def member (key : String) (node : Node) : List (List Piece × Node) := [(Piece.ofText key, node)]

/-- A field to write if it has a value. -/
def memberIf (key : String) (node : Option Node) : List (List Piece × Node) :=
  match node with
  | some node => member key node
  | none => []

/-- A record from its fields. -/
def record (fields : List (List (List Piece × Node))) : Node := .object fields.flatten

end SealGate.Json
