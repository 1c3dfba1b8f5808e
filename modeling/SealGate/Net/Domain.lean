import SealGate.Net.Domain.Direction
import SealGate.Net.Domain.Folding
import SealGate.Net.Domain.Joiner
import SealGate.Net.Punycode
import SealGate.Text.Composition

/-! Names of hosts in ASCII. A name is folded and composed, and each of its labels is written in
ASCII. A label that is in ASCII already may spell one that is not, which then has to be folded and
composed as it stands. A label starts with no mark, its joiners stand where they may, and in a name
with characters from the right the directions of each label fit together. -/

namespace SealGate.Net.Domain

open Text

/-- ASCII characters that no name may have. -/
def isForbidden (c : Char) : Bool :=
  c.toNat ≤ 32 || c.toNat = 127 || c ∈ "%#/:<>?@[\\]^|".toList

def fold? (text : List Char) : Option (List Char) := (text.mapM foldChar?).map List.flatten

/-- A name folded and composed, if it has only characters that a name may have. -/
def normalize? (text : List Char) : Option (List Char) := do
  let name := Composition.compose (← fold? text)
  if name.any isForbidden then none else return name

def asciiMark : List Char := "xn--".toList

/-- How long a spelling may be, and how long a label that is spelled. -/
def spellingLimit : Nat := 2000

def spelledLimit : Nat := 1000

/-- What a label in ASCII spells behind its mark, which is never ASCII alone. -/
def spelled? (code : List Char) : Option (List Char) := do
  if code.getLast?.getD '-' = '-' || spellingLimit < code.length then none
  else
    let label ← Punycode.decode? code
    if normalize? label = some label then return label else none

/-- A label: as it is read, and in ASCII. -/
def label? (label : List Char) : Option (List Char × List Char) :=
  match after? asciiMark label with
  | some code => (spelled? code).map fun read => (read, label)
  | none =>
    if label.all Punycode.isAscii then some (label, label)
    else if spelledLimit < label.length then none
    else some (label, asciiMark ++ Punycode.encode label)

/-- Whether a label as it is read may stand in a name. -/
def isLabel (label : List Char) : Bool :=
  !(label.head?.map Mark.isMark).getD false && joinersStand [] label

/-- A name in ASCII. -/
def ofText? (text : List Char) : Option (List Char) := do
  let labels ← (pieces (· = '.') (← normalize? text)).mapM label?
  let read := labels.map Prod.fst
  if !read.all isLabel || (read.any (·.any turns) && !read.all isDirected) then none
  else return ['.'].intercalate (labels.map Prod.snd)

end SealGate.Net.Domain
