import SealGate.Text.Decimal
import SealGate.Text.Hex

/-! Internet addresses: four octets, or eight groups of sixteen bits. An octet has no leading zeros.
Groups that are zero may be left out once, and the last two may be written as four octets. Written,
the longest run of at least two zero groups is left out. Reading takes an address from the front of
a text and gives the rest. -/

namespace SealGate.Net

open Text

abbrev V4 := Vector UInt8 4

def V4.ofNats (a b c d : Nat) : V4 :=
  #v[UInt8.ofNat a, UInt8.ofNat b, UInt8.ofNat c, UInt8.ofNat d]

abbrev V6 := Vector UInt16 8

namespace Ip

/-! ### Reading -/

def char? (c : Char) : List Char → Option (List Char)
  | [] => none
  | d :: text => if c = d then some text else none

/-- A run of decimal digits, as a number below a limit. -/
def number? (limit : Nat) (text : List Char) : Option (Nat × List Char) :=
  let digits := text.takeWhile Decimal.isDigit
  if digits = [] ∨ limit ≤ Decimal.value digits then none
  else some (Decimal.value digits, text.dropWhile Decimal.isDigit)

/-- An octet: at most three digits and no leading zero. -/
def octet? (text : List Char) : Option (Nat × List Char) :=
  let digits := text.takeWhile Decimal.isDigit
  if 3 < digits.length ∨ (1 < digits.length ∧ digits.head? = some '0') then none
  else number? 256 text

def v4? (text : List Char) : Option (V4 × List Char) := do
  let (a, text) ← octet? text
  let (b, text) ← octet? (← char? '.' text)
  let (c, text) ← octet? (← char? '.' text)
  let (d, text) ← octet? (← char? '.' text)
  return (V4.ofNats a b c d, text)

/-- A group: one to four hexadecimal digits. -/
def group? (text : List Char) : Option (UInt16 × List Char) :=
  let values := (text.takeWhile fun c => (Hex.digitValue? c).isSome).filterMap Hex.digitValue?
  if values = [] ∨ 4 < values.length then none
  else some (UInt16.ofNat (values.foldl (fun n v => 16 * n + v) 0), text.drop values.length)

/-- The two groups of four octets. -/
def groupsOfV4 (octets : V4) : List UInt16 :=
  let pair (high low : UInt8) : UInt16 := UInt16.ofNat (256 * high.toNat + low.toNat)
  [pair octets[0] octets[1], pair octets[2] octets[3]]

/-- The text behind the colon that stands before every group but the first. -/
def afterColon? (first : Bool) (text : List Char) : Option (List Char) :=
  if first then some text else char? ':' text

/-- As many groups as there are, up to a limit, and whether they end in four octets. -/
def groups : (limit : Nat) → (first : Bool) → List Char → List UInt16 × Bool × List Char
  | 0, _, text => ([], false, text)
  | limit + 1, first, text =>
    match (afterColon? first text).bind fun text => if limit = 0 then none else v4? text with
    | some (octets, rest) => (groupsOfV4 octets, true, rest)
    | none =>
      match (afterColon? first text).bind group? with
      | some (group, rest) =>
        let (behind, ended, rest) := groups limit false rest
        (group :: behind, ended, rest)
      | none => ([], false, text)

def vector? (groups : List UInt16) : Option V6 :=
  if h : groups.length = 8 then some ⟨groups.toArray, by simp [h]⟩ else none

/-- All eight groups, those left out included. -/
def v6? (text : List Char) : Option (V6 × List Char) :=
  match groups 8 true text with
  | (head, ended, rest) =>
    if head.length = 8 then (vector? head).map fun all => (all, rest)
    else if ended then none
    else do
      let rest ← char? ':' (← char? ':' rest)
      let (tail, _, rest) := groups (7 - head.length) true rest
      let all ← vector? (head ++ List.replicate (8 - head.length - tail.length) 0 ++ tail)
      return (all, rest)

/-! ### Writing -/

def renderOctets (octets : List UInt8) : List Char :=
  ['.'].intercalate (octets.map fun octet => Decimal.digits octet.toNat)

def renderV4 (octets : V4) : List Char := renderOctets octets.toList

def renderGroups (groups : List UInt16) : List Char :=
  [':'].intercalate (groups.map fun group => Hex.digits group.toNat)

/-- The length of the run of zero groups at the front. -/
def zeros (groups : List UInt16) : Nat := (groups.takeWhile (· == 0)).length

/-- The place and the length of the longest run of zero groups, the first of several. -/
def longestZeros : List UInt16 → Nat × Nat
  | [] => (0, 0)
  | group :: rest =>
    let (place, length) := longestZeros rest
    if length ≤ zeros (group :: rest) then (0, zeros (group :: rest)) else (place + 1, length)

def renderV6 (groups : V6) : List Char :=
  let groups := groups.toList
  let (place, length) := longestZeros groups
  if length ≤ 1 then renderGroups groups
  else renderGroups (groups.take place) ++ [':', ':'] ++ renderGroups (groups.drop (place + length))

end Ip

end SealGate.Net
