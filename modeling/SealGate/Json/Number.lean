import SealGate.Json.Node
import SealGate.Number.Binary64

/-! The value of a number. Integers between -2^63 and 2^64 - 1 are exact; every other number is a
double. A double is read in two roundings: the leading digits that fit in 64 bits are rounded to a
double, which is then multiplied or divided by a power of ten and rounded again. A number beyond the
largest double has no value. Doubles are written with the fewest digits that read back. -/

namespace SealGate.Json

open SealGate.Number

/-- An exact integer, or a double given by its sign and the bits below it. -/
inductive Number
  | integer (n : Int)
  | double (negative : Bool) (bits : Nat)
  deriving DecidableEq

/-- The leading digits that fit in 64 bits and the number of digits behind them. -/
def leading (seen : Nat) : List Char → Nat × Nat
  | [] => (seen, 0)
  | c :: rest =>
    let next := 10 * seen + Text.Decimal.digitValue c
    if next < 2 ^ 64 then leading next rest else (seen, rest.length + 1)

/-- Bits of the double nearest to the quotient of two doubles' values; infinite bits for a result
too large. -/
def quotientBits (combine : Quotient → Quotient → Quotient) (a b : Nat) : Nat :=
  Binary64.nearest (combine (Binary64.value a) (Binary64.value b))

/-- The double nearest to a power of ten. -/
def tenBits (k : Nat) : Nat := Binary64.nearest ⟨10 ^ k, 1⟩

/-- Divides by powers of ten of at most 308 until the exponent is used up or nothing is left. -/
def shrink : (fuel : Nat) → (bits exponent : Nat) → Nat
  | 0, _, _ => 0
  | fuel + 1, bits, exponent =>
    if exponent ≤ 308 then quotientBits Quotient.div bits (tenBits exponent)
    else if bits = 0 then 0
    else shrink fuel (quotientBits Quotient.div bits (tenBits 308)) (exponent - 308)

/-- The bits of `significand * 10 ^ exponent`, if it is no larger than the largest double. -/
def scaledBits? (significand : Nat) (exponent : Int) : Option Nat :=
  let bits := Binary64.nearest ⟨significand, 1⟩
  match exponent with
  | .ofNat k =>
    if 308 < k then (if bits = 0 then some 0 else none)
    else
      let product := quotientBits Quotient.mul bits (tenBits k)
      if product < Binary64.infinity then some product else none
  | .negSucc k => some (shrink 4 bits (k + 1))

/-- The exponent of a number; beyond 31 bits it is as good as infinite. -/
def exponentValue : Option (Sign × List Char) → Int
  | none => 0
  | some (.minus, digits) => -(min (Text.Decimal.value digits) (2 ^ 31) : Nat)
  | some (_, digits) => (min (Text.Decimal.value digits) (2 ^ 31) : Nat)

namespace Numeral

def double? (n : Numeral) : Option Number :=
  let (whole, dropped) := leading 0 n.whole
  let (significand, ignored) := leading whole n.fraction
  let places : Int := (dropped : Int) - ((n.fraction.length - ignored : Nat) : Int)
  (scaledBits? significand (places + exponentValue n.exponent)).map (.double n.negative)

/-- The number a numeral stands for; minus zero is a double. -/
def value? (n : Numeral) : Option Number :=
  if n.fraction = [] ∧ n.exponent = none then
    let m := Text.Decimal.value n.whole
    if n.negative = false ∧ m < 2 ^ 64 then some (.integer m)
    else if n.negative = true ∧ m ≠ 0 ∧ m ≤ 2 ^ 63 then some (.integer (-(m : Int)))
    else n.double?
  else n.double?

end Numeral

namespace Number

/-- Digits of a shortest decimal without trailing zeros, and the power of ten of the last one. -/
def dropZeros (digits : List Char) (k : Int) : List Char × Int :=
  let zeros := (digits.reverse.takeWhile (· == '0')).length
  (digits.take (digits.length - zeros), k + zeros)

/-- Positional between 10^-5 and 10^16, always with a point; elsewhere one digit before the point
and a signed exponent. -/
def doubleNumeral (negative : Bool) (bits : Nat) : Numeral :=
  if bits = 0 then ⟨negative, ['0'], ['0'], none⟩
  else
    let (n, last) := Binary64.shortest bits
    let (digits, k) := dropZeros (Text.Decimal.digits n) last
    let width : Int := k + digits.length
    if 0 ≤ k ∧ width ≤ 16 then
      ⟨negative, digits ++ List.replicate k.toNat '0', ['0'], none⟩
    else if 0 < width ∧ width ≤ 16 then
      ⟨negative, digits.take width.toNat, digits.drop width.toNat, none⟩
    else if -5 < width ∧ width ≤ 0 then
      ⟨negative, ['0'], List.replicate (-width).toNat '0' ++ digits, none⟩
    else
      let sign : Sign := if width ≤ 0 then .minus else .plus
      ⟨negative, digits.take 1, digits.drop 1,
        some (sign, Text.Decimal.digits (width - 1).natAbs)⟩

def toNumeral : Number → Numeral
  | .integer n => ⟨n < 0, Text.Decimal.digits n.natAbs, [], none⟩
  | .double negative bits => doubleNumeral negative bits

end Number

end SealGate.Json
