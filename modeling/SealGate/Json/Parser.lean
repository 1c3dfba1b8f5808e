import SealGate.Bytes
import SealGate.Json.Node
import SealGate.Text.Hex
import SealGate.Text.Split

/-! Reading JSON texts. The grammar is the strict one: no byte order mark, no trailing comma,
nothing after the value, no raw control character in a string, no leading zero. Nesting is limited
only by the length of the text. -/

namespace SealGate.Json

open Text

namespace Parser

def isBlank (c : Char) : Bool := c = ' ' || c = '\n' || c = '\t' || c = '\r'

def skipBlank (text : List Char) : List Char := text.dropWhile isBlank

/-- A run of digits, and the text behind it. -/
def takeDigits (text : List Char) : List Char × List Char :=
  (text.takeWhile Decimal.isDigit, text.dropWhile Decimal.isDigit)

/-- The code unit of four hexadecimal digits. -/
def codeUnit? (a b c d : Char) : Option Nat := do
  let a ← Hex.digitValue? a
  let b ← Hex.digitValue? b
  let c ← Hex.digitValue? c
  let d ← Hex.digitValue? d
  return ((a * 16 + b) * 16 + c) * 16 + d

/-- The character of an escape of one letter. -/
def escaped? : Char → Option Char
  | '"' => some '"'
  | '\\' => some '\\'
  | '/' => some '/'
  | 'b' => some '\x08'
  | 'f' => some '\x0c'
  | 'n' => some '\n'
  | 'r' => some '\r'
  | 't' => some '\t'
  | _ => none

/-- The rest of a string behind its opening quote, and the text behind the closing one. -/
def stringBody : List Char → Option (List Piece × List Char)
  | [] => none
  | '"' :: rest => some ([], rest)
  | '\\' :: 'u' :: a :: b :: c :: d :: rest => do
    let unit ← codeUnit? a b c d
    let (pieces, rest) ← stringBody rest
    return (Piece.ofUnit unit :: pieces, rest)
  | '\\' :: letter :: rest => do
    let c ← escaped? letter
    let (pieces, rest) ← stringBody rest
    return (.char c :: pieces, rest)
  | c :: rest =>
    if c.toNat < 32 ∨ c = '\\' then none
    else do
      let (pieces, rest) ← stringBody rest
      return (.char c :: pieces, rest)

/-- The digits before the point: a zero alone, or a run that does not start with one. -/
def whole? (text : List Char) : Option (List Char × List Char) :=
  match text with
  | '0' :: rest => some (['0'], rest)
  | _ =>
    match takeDigits text with
    | ([], _) => none
    | found => some found

/-- The digits after the point, if there is one. -/
def fraction? (text : List Char) : Option (List Char × List Char) :=
  match text with
  | '.' :: rest =>
    match takeDigits rest with
    | ([], _) => none
    | found => some found
  | _ => some ([], text)

def sign (text : List Char) : Sign × List Char :=
  match text with
  | '+' :: rest => (.plus, rest)
  | '-' :: rest => (.minus, rest)
  | _ => (.unsigned, text)

def exponentDigits? (text : List Char) : Option (Option (Sign × List Char) × List Char) :=
  match takeDigits (sign text).2 with
  | ([], _) => none
  | (digits, rest) => some (some ((sign text).1, digits), rest)

/-- The exponent, if there is one. -/
def exponent? (text : List Char) : Option (Option (Sign × List Char) × List Char) :=
  match text with
  | 'e' :: rest => exponentDigits? rest
  | 'E' :: rest => exponentDigits? rest
  | _ => some (none, text)

/-- A number behind its minus sign. -/
def unsignedNumeral? (negative : Bool) (text : List Char) : Option (Numeral × List Char) := do
  let (whole, rest) ← whole? text
  let (fraction, rest) ← fraction? rest
  let (exponent, rest) ← exponent? rest
  return (⟨negative, whole, fraction, exponent⟩, rest)

def numeral? (text : List Char) : Option (Numeral × List Char) :=
  match text with
  | '-' :: rest => unsignedNumeral? true rest
  | _ => unsignedNumeral? false text

mutual

/-- A value at the start of a text without leading blanks. Every step into a value, an element or a
member takes one unit of fuel and at least one character. -/
def value : Nat → List Char → Option (Node × List Char)
  | 0, _ => none
  | fuel + 1, text =>
    match text with
    | 'n' :: 'u' :: 'l' :: 'l' :: rest => some (.null, rest)
    | 't' :: 'r' :: 'u' :: 'e' :: rest => some (.bool true, rest)
    | 'f' :: 'a' :: 'l' :: 's' :: 'e' :: rest => some (.bool false, rest)
    | '"' :: rest => (stringBody rest).map fun (pieces, rest) => (.string pieces, rest)
    | '[' :: rest =>
      match skipBlank rest with
      | ']' :: rest => some (.array [], rest)
      | rest => (elements fuel rest).map fun (nodes, rest) => (.array nodes, rest)
    | '\x7b' :: rest =>
      match skipBlank rest with
      | '\x7d' :: rest => some (.object [], rest)
      | rest => (members fuel rest).map fun (nodes, rest) => (.object nodes, rest)
    | _ => (numeral? text).map fun (n, rest) => (.number n, rest)

/-- The elements of an array up to its closing bracket. -/
def elements : Nat → List Char → Option (List Node × List Char)
  | 0, _ => none
  | fuel + 1, text => do
    let (node, rest) ← value fuel text
    match skipBlank rest with
    | ']' :: rest => some ([node], rest)
    | ',' :: rest =>
      let (nodes, rest) ← elements fuel (skipBlank rest)
      return (node :: nodes, rest)
    | _ => none

/-- The members of an object up to its closing brace. -/
def members : Nat → List Char → Option (List (List Piece × Node) × List Char)
  | 0, _ => none
  | fuel + 1, text =>
    match text with
    | '"' :: rest => do
      let (key, rest) ← stringBody rest
      match skipBlank rest with
      | ':' :: rest =>
        let (node, rest) ← value fuel (skipBlank rest)
        match skipBlank rest with
        | '\x7d' :: rest => some ([(key, node)], rest)
        | ',' :: rest =>
          let (nodes, rest) ← members fuel (skipBlank rest)
          return ((key, node) :: nodes, rest)
        | _ => none
      | _ => none
    | _ => none

end

end Parser

/-- The tree of a JSON text. -/
def Node.parseChars? (text : List Char) : Option Node := do
  let (node, rest) ← Parser.value (2 * text.length + 1) (Parser.skipBlank text)
  if Parser.skipBlank rest = [] then some node else none

def Node.parse? (text : String) : Option Node := Node.parseChars? text.toList

/-- What a byte that belongs to no character is read as: a letter that no escape may have, and half
of a surrogate pair behind it. Outside a string this is no JSON, and a string that holds it has no
text. -/
def strayByte : List Char := ['x', '\\', 'u', 'd', 'c', '0', '0']

/-- The tree of a JSON text in UTF-8. Strings nobody reads need not be valid UTF-8. -/
def Node.ofBytes? (bytes : Bytes) : Option Node :=
  Node.parseChars? (bytes.chars.flatMap fun c => (c.map fun c => [c]).getD strayByte)

@[simp] theorem Node.ofBytes?_ofText (text : String) :
    Node.ofBytes? (Bytes.ofText text) = Node.parse? text := by
  simp [Node.ofBytes?, Node.parse?, List.flatMap_map]

end SealGate.Json
