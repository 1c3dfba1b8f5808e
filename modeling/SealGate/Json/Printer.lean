import SealGate.Bytes
import SealGate.Json.Node
import SealGate.Text.Hex

/-! Writing JSON texts. The form is compact: no blanks, members in the order of the tree. A string
escapes quotes, backslashes and the characters below U+0020, the latter by their short escapes where
JSON has one; so a written text never holds a line break. -/

namespace SealGate.Json

open Text

/-- Four hexadecimal digits of a code unit, after the escape mark. -/
def unitEscape (unit : Nat) : List Char :=
  ['\\', 'u', Hex.digit (unit / 4096 % 16), Hex.digit (unit / 256 % 16), Hex.digit (unit / 16 % 16),
    Hex.digit (unit % 16)]

namespace Piece

def renderChar (c : Char) : List Char :=
  match c with
  | '"' => ['\\', '"']
  | '\\' => ['\\', '\\']
  | '\x08' => ['\\', 'b']
  | '\x0c' => ['\\', 'f']
  | '\n' => ['\\', 'n']
  | '\r' => ['\\', 'r']
  | '\t' => ['\\', 't']
  | c => if c.toNat < 32 then unitEscape c.toNat else [c]

def render : Piece → List Char
  | .char c => renderChar c
  | .surrogate unit => unitEscape unit

def renderAll (pieces : List Piece) : List Char := '"' :: (pieces.flatMap render ++ ['"'])

end Piece

namespace Numeral

def renderSign : Sign → List Char
  | .unsigned => []
  | .plus => ['+']
  | .minus => ['-']

def renderExponent : Option (Sign × List Char) → List Char
  | none => []
  | some (sign, digits) => 'e' :: (renderSign sign ++ digits)

def render (n : Numeral) : List Char :=
  (if n.negative then ['-'] else []) ++ n.whole ++
    (if n.fraction = [] then [] else '.' :: n.fraction) ++ renderExponent n.exponent

end Numeral

/-- Texts with a comma between neighbours. -/
def joinComma : List (List Char) → List Char
  | [] => []
  | [text] => text
  | text :: rest => text ++ ',' :: joinComma rest

namespace Node

mutual

def renderChars : Node → List Char
  | .null => "null".toList
  | .bool true => "true".toList
  | .bool false => "false".toList
  | .number n => n.render
  | .string pieces => Piece.renderAll pieces
  | .array elements => '[' :: (joinComma (renderElements elements) ++ [']'])
  | .object members => '\x7b' :: (joinComma (renderMembers members) ++ ['\x7d'])

def renderElements : List Node → List (List Char)
  | [] => []
  | node :: rest => renderChars node :: renderElements rest

def renderMembers : List (List Piece × Node) → List (List Char)
  | [] => []
  | (key, node) :: rest => (Piece.renderAll key ++ ':' :: renderChars node) :: renderMembers rest

end

def render (node : Node) : String := String.ofList node.renderChars

/-- The written text in UTF-8. -/
def toBytes (node : Node) : Bytes := Bytes.ofText node.render

end Node

end SealGate.Json
