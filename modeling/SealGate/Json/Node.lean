import SealGate.Text.Decimal

/-! JSON texts as trees. A node keeps what a text spells and judges nothing: a number is its digits,
a string its characters and the surrogate halves that its escapes left unpaired, an object all of
its members in order, repeated keys included. What a number or a string means, and whether it has a
meaning, is asked of the node by those who need it; members nobody reads are never asked. -/

namespace SealGate.Json

/-- A part of a string: a character, or a surrogate half written as an escape. -/
inductive Piece
  | char (c : Char)
  | surrogate (unit : Nat)
  deriving DecidableEq

inductive Sign
  | unsigned
  | plus
  | minus
  deriving DecidableEq

/-- A number as written: its digits before the point, after it (none if there is no point), and the
exponent with its sign. -/
structure Numeral where
  negative : Bool
  whole : List Char
  fraction : List Char
  exponent : Option (Sign × List Char)
  deriving DecidableEq

inductive Node
  | null
  | bool (b : Bool)
  | number (n : Numeral)
  | string (pieces : List Piece)
  | array (elements : List Node)
  | object (members : List (List Piece × Node))

namespace Piece

def isHigh (unit : Nat) : Bool := 0xD800 ≤ unit && unit < 0xDC00

def isLow (unit : Nat) : Bool := 0xDC00 ≤ unit && unit < 0xE000

/-- The piece an escaped code unit stands for. -/
def ofUnit (unit : Nat) : Piece :=
  if isHigh unit || isLow unit then .surrogate unit else .char (Char.ofNat unit)

/-- The characters of a string, if every high half is followed by a low one and no low half stands
alone. -/
def chars? : List Piece → Option (List Char)
  | [] => some []
  | .char c :: rest => (chars? rest).map (c :: ·)
  | .surrogate high :: .surrogate low :: rest =>
    if isHigh high && isLow low then
      (chars? rest).map (Char.ofNat (0x10000 + (high - 0xD800) * 0x400 + (low - 0xDC00)) :: ·)
    else none
  | .surrogate _ :: _ => none

def ofText (text : String) : List Piece := text.toList.map .char

theorem chars?_map_char (chars : List Char) : chars? (chars.map .char) = some chars := by
  induction chars with
  | nil => rfl
  | cons c chars ih => simp [chars?, ih]

end Piece

namespace Numeral

/-- The numeral of a natural number. -/
def ofNat (n : Nat) : Numeral := ⟨false, Text.Decimal.digits n, [], none⟩

/-- The natural number of a numeral without sign, point and exponent. -/
def natural? (n : Numeral) : Option Nat :=
  if n.negative = false ∧ n.fraction = [] ∧ n.exponent = none then some (Text.Decimal.value n.whole)
  else none

@[simp] theorem natural?_ofNat (n : Nat) : natural? (ofNat n) = some n := by
  simp [natural?, ofNat, Text.Decimal.value_digits]

end Numeral

namespace Node

def ofText (text : String) : Node := .string (Piece.ofText text)

def ofNat (n : Nat) : Node := .number (Numeral.ofNat n)

def text? : Node → Option String
  | .string pieces => (Piece.chars? pieces).map String.ofList
  | _ => none

def bool? : Node → Option Bool
  | .bool b => some b
  | _ => none

/-- A natural number below `limit`. -/
def natural? (limit : Nat) : Node → Option Nat
  | .number n => n.natural?.filter (· < limit)
  | _ => none

def uint16? (node : Node) : Option UInt16 := (node.natural? (2 ^ 16)).map UInt16.ofNat

def uint32? (node : Node) : Option UInt32 := (node.natural? (2 ^ 32)).map UInt32.ofNat

def uint64? (node : Node) : Option UInt64 := (node.natural? (2 ^ 64)).map UInt64.ofNat

@[simp] theorem text?_ofText (text : String) : (ofText text).text? = some text := by
  simp [ofText, text?, Piece.ofText, Piece.chars?_map_char]

@[simp] theorem bool?_bool (b : Bool) : (bool b).bool? = some b := rfl

theorem natural?_ofNat {n limit : Nat} (h : n < limit) : (ofNat n).natural? limit = some n := by
  simp [ofNat, natural?, h]

@[simp] theorem uint16?_ofNat (n : UInt16) : (ofNat n.toNat).uint16? = some n := by
  simp [uint16?, natural?_ofNat n.toNat_lt]

@[simp] theorem uint32?_ofNat (n : UInt32) : (ofNat n.toNat).uint32? = some n := by
  simp [uint32?, natural?_ofNat n.toNat_lt]

@[simp] theorem uint64?_ofNat (n : UInt64) : (ofNat n.toNat).uint64? = some n := by
  simp [uint64?, natural?_ofNat n.toNat_lt]

end Node

end SealGate.Json
