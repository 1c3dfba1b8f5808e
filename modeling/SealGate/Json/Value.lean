import SealGate.Json.Number

/-! Values of any shape. A value is a tree all of whose strings and numbers have a meaning, nested
no deeper than a given limit. Its objects hold each key once, in the order of the keys: a repeated
key keeps its last value. -/

namespace SealGate.Json

inductive Value
  | null
  | bool (b : Bool)
  | number (n : Number)
  | string (text : String)
  | array (elements : List Value)
  | object (members : List (String × Value))

/-- How deep a value may be nested. -/
def depthLimit : Nat := 127

/-- Puts a member into a list ordered by key, in place of one with the same key. -/
def insertMember {α : Type} (key : String) (value : α) : List (String × α) → List (String × α)
  | [] => [(key, value)]
  | (k, v) :: rest =>
    if key = k then (key, value) :: rest
    else if key < k then (key, value) :: (k, v) :: rest
    else (k, v) :: insertMember key value rest

def orderMembers {α : Type} (members : List (String × α)) : List (String × α) :=
  members.foldl (fun ordered (key, value) => insertMember key value ordered) []

def keyText? (pieces : List Piece) : Option String := (Piece.chars? pieces).map String.ofList

namespace Value

/-- The value of a node with at most `depth` levels of arrays and objects. -/
def ofNode? : (depth : Nat) → Node → Option Value
  | _, .null => some .null
  | _, .bool b => some (.bool b)
  | _, .number n => n.value?.map .number
  | _, .string pieces => (keyText? pieces).map .string
  | 0, .array _ => none
  | 0, .object _ => none
  | depth + 1, .array elements => (elements.mapM (ofNode? depth)).map .array
  | depth + 1, .object members =>
    (members.mapM fun (key, node) => do return (← keyText? key, ← ofNode? depth node)).map
      fun values => .object (orderMembers values)

mutual

def toNode : Value → Node
  | .null => .null
  | .bool b => .bool b
  | .number n => .number n.toNumeral
  | .string text => Node.ofText text
  | .array elements => .array (elementNodes elements)
  | .object members => .object (memberNodes members)

def elementNodes : List Value → List Node
  | [] => []
  | value :: rest => toNode value :: elementNodes rest

def memberNodes : List (String × Value) → List (List Piece × Node)
  | [] => []
  | (key, value) :: rest => (Piece.ofText key, toNode value) :: memberNodes rest

end

end Value

end SealGate.Json
