import SealGate.Text.Hex
import SealGate.Text.Split

/-! Sets of characters as closed ranges of code points, written in rows of hexadecimal numbers: a
range is two numbers with a hyphen, a single character one number. -/

namespace SealGate.Text

abbrev Ranges := List (Nat × Nat)

namespace Ranges

def codePoint (digits : List Char) : Nat :=
  (digits.filterMap Hex.digitValue?).foldl (fun n d => 16 * n + d) 0

def range (word : List Char) : Nat × Nat :=
  match splitFirst '-' word with
  | some (low, high) => (codePoint low, codePoint high)
  | none => (codePoint word, codePoint word)

def ofRow (row : String) : Ranges := (pieces (· = ' ') row.toList).map range

def ofRows (rows : List String) : Ranges := rows.flatMap ofRow

def has (ranges : Ranges) (c : Char) : Bool :=
  ranges.any fun (low, high) => low ≤ c.toNat && c.toNat ≤ high

end Ranges

end SealGate.Text
