import SealGate.Net.Ip

/-! Socket addresses: four octets and a port, or eight groups in brackets and a port. A port may
have leading zeros; groups may be followed by a percent sign and the number of a scope. Written,
octets are used only for an address that maps one. -/

namespace SealGate.Shell

open Net Text

inductive Address
  | v4 (octets : V4) (port : UInt16)
  | v6 (groups : V6) (scope : UInt32) (port : UInt16)
  deriving DecidableEq

namespace Address

/-- The number behind a percent sign, if there is one. -/
def scope? (text : List Char) : Option (UInt32 × List Char) :=
  match text with
  | '%' :: rest => (Ip.number? (2 ^ 32) rest).map fun (n, rest) => (UInt32.ofNat n, rest)
  | _ => some (0, text)

/-- The port that ends an address. -/
def port? (text : List Char) : Option UInt16 := do
  match ← Ip.number? (2 ^ 16) (← Ip.char? ':' text) with
  | (n, []) => return UInt16.ofNat n
  | _ => none

def v4? (text : List Char) : Option Address := do
  let (octets, rest) ← Ip.v4? text
  return .v4 octets (← port? rest)

def v6? (text : List Char) : Option Address := do
  let (groups, rest) ← Ip.v6? (← Ip.char? '[' text)
  let (scope, rest) ← scope? rest
  return .v6 groups scope (← port? (← Ip.char? ']' rest))

def parse? (text : String) : Option Address := (v4? text.toList).or (v6? text.toList)

/-- The octets that eight groups map, if they do. -/
def mapped? (groups : V6) : Option (List UInt8) :=
  match groups.toList with
  | [0, 0, 0, 0, 0, 0xffff, a, b] =>
    some [(a / 256).toUInt8, a.toUInt8, (b / 256).toUInt8, b.toUInt8]
  | _ => none

def renderGroups (groups : V6) : List Char :=
  match mapped? groups with
  | some octets => "::ffff:".toList ++ Ip.renderOctets octets
  | none => Ip.renderV6 groups

def renderChars : Address → List Char
  | .v4 octets port => Ip.renderV4 octets ++ ':' :: Decimal.digits port.toNat
  | .v6 groups scope port =>
    let zone := if scope = 0 then [] else '%' :: Decimal.digits scope.toNat
    '[' :: (renderGroups groups ++ zone ++ "]:".toList ++ Decimal.digits port.toNat)

def render (address : Address) : String := String.ofList address.renderChars

end Address

end SealGate.Shell
