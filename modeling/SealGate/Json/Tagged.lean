import SealGate.Json.Record

/-! Tagged messages. A message is an object with a member that names its kind, the other members
being its fields, or an array that starts with the kind. All of a message has to be a value, also
the parts nobody reads. -/

namespace SealGate.Json.Node

/-- The kind of a message and the node of its fields. -/
def tagged? (tag : String) : Node → Option (String × Node)
  | .object members => do
    let named ← named? members
    let fields := (members.zip named).filter fun pair => pair.2.1 ≠ tag
    if fields.all fun pair => (Value.ofNode? (depthLimit - 1) pair.1.2).isSome then
      match membersOf named tag with
      | [kind] => return (← kind.text?, .object (fields.map Prod.fst))
      | _ => none
    else none
  | .array (kind :: elements) => do
    let kind ← kind.text?
    if elements.all fun node => (Value.ofNode? (depthLimit - 1) node).isSome then
      return (kind, .array elements)
    else none
  | _ => none

/-- The fields of a kind that has none: any object, or an empty array. -/
def isBare : Node → Bool
  | .object _ => true
  | .array [] => true
  | _ => false

/-- A message of a kind with its fields. -/
def message (tag kind : String) (fields : List (List (List Piece × Node))) : Node :=
  record (member tag (ofText kind) :: fields)

end SealGate.Json.Node
