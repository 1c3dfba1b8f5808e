import SealGate.Text.Split

/-! Labels of domain names that are not ASCII, written in ASCII: first the ASCII characters of the
label and a hyphen, then the others in the order of their code points, each as the distance from the
one before. A distance is a numeral of mixed radix to base 36, least digit first, whose digits are
bounded by thresholds that follow the distances seen so far. -/

namespace SealGate.Net.Punycode

def digit (d : Nat) : Char := Char.ofNat (if d < 26 then 97 + d else 22 + d)

def digitValue? (c : Char) : Option Nat :=
  if 'a' ≤ c ∧ c ≤ 'z' then some (c.toNat - 97)
  else if '0' ≤ c ∧ c ≤ '9' then some (c.toNat - 22)
  else none

/-- The bound at a digit, whose place counts in steps of 36: a lower digit ends the numeral. -/
def threshold (bias place : Nat) : Nat := min 26 (max 1 (place - bias))

def shrink (delta place : Nat) : Nat :=
  if 455 < delta then shrink (delta / 35) (place + 36) else place + 36 * delta / (delta + 38)
termination_by delta

/-- The bias behind a distance in a label that has grown to `count` characters. -/
def adapt (isFirst : Bool) (delta count : Nat) : Nat :=
  let delta := if isFirst then delta / 700 else delta / 2
  shrink (delta + delta / count) 0

def firstBias : Nat := 72

def firstPoint : Nat := 128

def isAscii (c : Char) : Bool := c.toNat < firstPoint

theorem threshold_pos (bias place : Nat) : 0 < threshold bias place := by
  simp only [threshold]; omega

/-! ### Writing -/

def numeral (bias place n : Nat) : List Char :=
  let bound := threshold bias place
  if n < bound then [digit n]
  else
    digit (bound + (n - bound) % (36 - bound)) ::
      numeral bias (place + 36) ((n - bound) / (36 - bound))
termination_by n
decreasing_by
  have := threshold_pos bias place
  have := Nat.div_le_self (n - threshold bias place) (36 - threshold bias place)
  omega

structure Writer where
  written : List Char
  delta : Nat
  bias : Nat
  /-- How many characters are written. -/
  count : Nat
  /-- The least code point that may still be written. -/
  point : Nat

/-- Passes a character of the label on the way to the next one that has the current code point. -/
def Writer.pass (basics : Nat) (w : Writer) (c : Char) : Writer :=
  if c.toNat < w.point then { w with delta := w.delta + 1 }
  else if c.toNat = w.point then
    { w with
      written := w.written ++ numeral w.bias 36 w.delta
      delta := 0
      bias := adapt (w.count = basics) w.delta (w.count + 1)
      count := w.count + 1 }
  else w

/-- Writes all characters with one code point. -/
def Writer.write (label : List Char) (basics : Nat) (w : Writer) (point : Nat) : Writer :=
  let ready := { w with delta := w.delta + (point - w.point) * (w.count + 1), point := point }
  let passed := label.foldl (Writer.pass basics) ready
  { passed with delta := passed.delta + 1, point := point + 1 }

def encode (label : List Char) : List Char :=
  let basic := label.filter isAscii
  let points := ((label.filter (!isAscii ·)).map Char.toNat).mergeSort.eraseDups
  let start : Writer := ⟨[], 0, firstBias, basic.length, firstPoint⟩
  (if basic = [] then [] else basic ++ ['-']) ++
    (points.foldl (Writer.write label basic.length) start).written

/-! ### Reading -/

def numeral? (bias : Nat) : (place weight : Nat) → List Char → Option (Nat × List Char)
  | _, _, [] => none
  | place, weight, c :: text => do
    let d ← digitValue? c
    let bound := threshold bias place
    if d < bound then return (d * weight, text)
    let (high, text) ← numeral? bias (place + 36) (weight * (36 - bound)) text
    return (d * weight + high, text)

/-- Inserts the characters that a text tells into those known; every step reads something. -/
def insertAll :
    (fuel : Nat) → (point place bias : Nat) → (known : List Char) → List Char → Option (List Char)
  | _, _, _, _, known, [] => some known
  | 0, _, _, _, _, _ => none
  | fuel + 1, point, place, bias, known, text => do
    let (delta, text) ← numeral? bias 36 1 text
    let count := known.length + 1
    let point := point + (place + delta) / count
    let next := (place + delta) % count
    if point.isValidChar then
      insertAll fuel point (next + 1) (adapt (place = 0) delta count)
        (known.insertIdx next (Char.ofNat point)) text
    else none

/-- What stands before the last hyphen is taken as it is and has to be ASCII. -/
def decode? (text : List Char) : Option (List Char) :=
  match Text.uptoLast? '-' text with
  | some (c :: d :: basic) =>
    let known := (c :: d :: basic).dropLast
    if known.all isAscii then
      insertAll text.length firstPoint 0 firstBias known (text.drop (known.length + 1))
    else none
  | _ => insertAll text.length firstPoint 0 firstBias [] text

end SealGate.Net.Punycode
