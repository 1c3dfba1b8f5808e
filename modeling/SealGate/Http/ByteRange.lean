import SealGate.Text.Blank
import SealGate.Text.Decimal
import SealGate.Text.Split

/-! The value of a `Range` header. One range is understood: `bytes=first-last` with both ends
included, or `bytes=first-` to the end. White space may surround the value, the range and each
number. An empty value, and an empty range after the unit, ask for the whole file. -/

namespace SealGate.Http

/-- A range of plaintext bytes; length 0 means to the end of the file. -/
structure ByteRange where
  start : UInt64
  length : UInt64
  deriving DecidableEq

/-- Why a range is refused; `overflow` is the one closed range whose length exceeds 64 bits. -/
inductive ByteRange.Error
  | invalid
  | multipleRanges
  | overflow
  deriving DecidableEq

namespace ByteRange

open Text

def Error.message : Error → String
  | .invalid => "Invalid range"
  | .multipleRanges => "Multiple ranges are not supported"
  | .overflow => "attempt to add with overflow"

def unit : List Char := "bytes=".toList

/-- The range from `first` to `last`, both included. -/
def closed (first last : UInt64) : Except Error ByteRange :=
  if last < first then .error .invalid
  else if last - first = UInt64.ofNat (2 ^ 64 - 1) then .error .overflow
  else .ok ⟨first, last - first + 1⟩

/-- A range without its unit, trimmed and not empty. -/
def parseBounds (text : List Char) : Except Error ByteRange :=
  match splitFirst '-' text with
  | none => .error .invalid
  | some (before, behind) =>
    match Decimal.numeral? (trim before) with
    | none => .error .invalid
    | some first =>
      if trim behind = [] then .ok ⟨first, 0⟩
      else match Decimal.numeral? (trim behind) with
        | none => .error .invalid
        | some last => closed first last

def parseChars (text : List Char) : Except Error (Option ByteRange) :=
  if trim text = [] then .ok none
  else match after? unit (trim text) with
    | none => .error .invalid
    | some spec =>
      if ',' ∈ spec then .error .multipleRanges
      else if trim spec = [] then .ok none
      else (parseBounds (trim spec)).map some

/-- The range a header value asks for; `none` is the whole file. -/
def parse (value : String) : Except Error (Option ByteRange) := parseChars value.toList

end ByteRange

end SealGate.Http
