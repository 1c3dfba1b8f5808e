import SealGate.Text.Hex
import SealGate.Text.Unshown

/-! Quoted texts of diagnostics. Quotes, backslashes, tabs and line breaks have short escapes; every
other character that would not show is written by its code point in braces. -/

namespace SealGate.Text

def isUnshown (c : Char) : Bool :=
  let n := c.toNat
  n < 32 || (127 ≤ n && Unshown.ranges.any fun (low, high) => low ≤ n && n ≤ high)

def quotedChar (c : Char) : List Char :=
  match c with
  | '\x00' => ['\\', '0']
  | '\t' => ['\\', 't']
  | '\r' => ['\\', 'r']
  | '\n' => ['\\', 'n']
  | '\\' => ['\\', '\\']
  | '"' => ['\\', '"']
  | c => if isUnshown c then ['\\', 'u', '\x7b'] ++ Hex.digits c.toNat ++ ['\x7d'] else [c]

def quoted (text : String) : String :=
  String.ofList ('"' :: (text.toList.flatMap quotedChar ++ ['"']))

end SealGate.Text
