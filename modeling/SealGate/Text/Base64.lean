import SealGate.Bytes

/-! Base64. Three bytes at a time are written as four of 64 signs, and what is left over at the end
is filled up with equals signs. -/

namespace SealGate.Text.Base64

def signs : List Char :=
  "ABCDEFGHIJKLMNOPQRSTUVWXYZabcdefghijklmnopqrstuvwxyz0123456789+/".toList

/-- The sign of the lowest six bits of a number. -/
def sign (n : Nat) : Char := signs.getD (n % 64) '='

def encodeChars : Bytes → List Char
  | [] => []
  | [a] =>
    let n := 16 * a.toNat
    [sign (n / 64), sign n, '=', '=']
  | [a, b] =>
    let n := 4 * (256 * a.toNat + b.toNat)
    [sign (n / 4096), sign (n / 64), sign n, '=']
  | a :: b :: c :: rest =>
    let n := 256 * (256 * a.toNat + b.toNat) + c.toNat
    [sign (n / 262144), sign (n / 4096), sign (n / 64), sign n] ++ encodeChars rest

def encode (bytes : Bytes) : String := String.ofList (encodeChars bytes)

example : encode [0xff, 0xfe, 0xfd, 0x00, 0x3e] = "//79AD4=" := by decide

end SealGate.Text.Base64
