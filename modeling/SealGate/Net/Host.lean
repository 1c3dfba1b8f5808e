import SealGate.Net.Domain
import SealGate.Net.Ip
import SealGate.Text.Percent

/-! Hosts of URLs: names and addresses. A name whose last label is a number is an address of the
fourth version, whose numbers may be decimal, octal or hexadecimal and of which the last one fills
the octets that are left. -/

namespace SealGate.Net

open Text

inductive Host
  | name (domain : String)
  | v4 (octets : V4)
  | v6 (groups : V6)
  deriving DecidableEq

namespace Host

/-! ### Numbers -/

def digits? (base : Nat) (text : List Char) : Option Nat :=
  text.foldlM
    (fun n c => (Hex.digitValue? c).bind fun d => if d < base then some (base * n + d) else none) 0

/-- A number: hexadecimal behind `0x`, octal behind another leading zero. -/
def number? : List Char → Option Nat
  | [] => none
  | '0' :: 'x' :: text => digits? 16 text
  | '0' :: d :: text => digits? 8 (d :: text)
  | text => digits? 10 text

/-- The labels of a name; a stop at its end separates nothing. -/
def labels (name : List Char) : List (List Char) :=
  let all := pieces (· = '.') name
  if all.getLast? = some [] then all.dropLast else all

def endsInNumber (name : List Char) : Bool :=
  match (labels name).getLast? with
  | some (c :: label) => (c :: label).all Decimal.isDigit || (number? (c :: label)).isSome
  | _ => false

/-- The octets of at most four numbers, of which the last one fills those that are left. -/
def octets? (numbers : List Nat) : Option (List Nat) :=
  match numbers.reverse with
  | [] => none
  | last :: front =>
    if 4 < numbers.length ∨ 256 ^ (5 - numbers.length) ≤ last ∨ front.any (256 ≤ ·) then none
    else
      let rest := (List.range (5 - numbers.length)).map fun place => last / 256 ^ place % 256
      some (front.reverse ++ rest.reverse)

def v4? (name : List Char) : Option V4 := do
  match ← octets? (← (labels name).mapM number?) with
  | [a, b, c, d] => return V4.ofNats a b c d
  | _ => none

/-! ### Hosts -/

/-- A name, which may have percent escapes, or an address without brackets. -/
def ofName? (text : List Char) : Option Host := do
  let name ← Domain.ofText? (← Percent.decode? (String.ofList text)).toList
  if name = [] then none
  else if endsInNumber name then return .v4 (← v4? name)
  else return .name (String.ofList name)

/-- The host at the front of a text, and the rest, which starts with the colon of a port. -/
def read? (text : List Char) : Option (Host × List Char) :=
  match text with
  | '[' :: text => do
    let (groups, rest) ← Ip.v6? text
    return (.v6 groups, ← Ip.char? ']' rest)
  | _ => do return (← ofName? (text.takeWhile (· ≠ ':')), text.dropWhile (· ≠ ':'))

def render : Host → List Char
  | .name domain => domain.toList
  | .v4 octets => Ip.renderV4 octets
  | .v6 groups => '[' :: Ip.renderV6 groups ++ [']']

end Host

end SealGate.Net
