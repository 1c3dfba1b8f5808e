import SealGate.Text.Hex

/-! Percent escapes. What is not kept is written as a percent sign and two upper-case digits for
each byte; encoding a name keeps letters, digits and the four marks `-._~`. Decoding replaces each
well-formed escape by its byte and leaves a percent sign that starts none as it is; the result must
be UTF-8. -/

namespace SealGate.Text.Percent

def isUnreserved (b : UInt8) : Bool :=
  let n := b.toNat
  (48 ≤ n && n ≤ 57) || (65 ≤ n && n ≤ 90) || (97 ≤ n && n ≤ 122) ||
    n = 45 || n = 46 || n = 95 || n = 126

def upperDigit (n : Nat) : Char := if n < 10 then Char.ofNat (48 + n) else Char.ofNat (55 + n)

def escapeByte (isKept : UInt8 → Bool) (b : UInt8) : List Char :=
  if isKept b then [Char.ofNat b.toNat]
  else ['%', upperDigit (b.toNat / 16), upperDigit (b.toNat % 16)]

/-- A text with the bytes that are not kept escaped. -/
def escape (isKept : UInt8 → Bool) (text : String) : String :=
  String.ofList ((Bytes.ofText text).flatMap (escapeByte isKept))

/-- A name as a segment of a path. -/
def encode (text : String) : String := escape isUnreserved text

def digitValue? (b : UInt8) : Option Nat := Hex.digitValue? (Char.ofNat b.toNat)

def decodeBytes : Bytes → Bytes
  | [] => []
  | [b] => [b]
  | [b, c] => [b, c]
  | b :: high :: low :: rest =>
    match b == 37, digitValue? high, digitValue? low with
    | true, some h, some l => UInt8.ofNat (16 * h + l) :: decodeBytes rest
    | _, _, _ => b :: decodeBytes (high :: low :: rest)

def decode? (text : String) : Option String := Bytes.text? (decodeBytes (Bytes.ofText text))

end SealGate.Text.Percent
