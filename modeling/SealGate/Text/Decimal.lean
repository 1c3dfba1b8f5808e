import SealGate.Number.Saturating

/-! Decimal numerals. `digits` writes a number with no leading zero; `value` reads any run of
digits, and reading what was written gives the number back. A numeral of a request may carry a plus
sign and leading zeros, and is refused when it does not fit in 64 bits. -/

namespace SealGate.Text.Decimal

def isDigit (c : Char) : Bool := '0' ≤ c && c ≤ '9'

def digit (n : Nat) : Char := Char.ofNat (48 + n % 10)

def digitValue (c : Char) : Nat := c.toNat - 48

/-- The decimal digits of a number, most significant first. -/
def digits (n : Nat) : List Char :=
  if n < 10 then [digit n] else digits (n / 10) ++ [digit n]
termination_by n

/-- The number spelled by a run of digits, continuing from the digits already read. -/
def valueFrom (seen : Nat) (text : List Char) : Nat :=
  text.foldl (fun n c => 10 * n + digitValue c) seen

def value (text : List Char) : Nat := valueFrom 0 text

def render (n : Nat) : String := String.ofList (digits n)

/-- The number of a 64-bit numeral: an optional plus sign, then at least one digit. -/
def numeral? (text : List Char) : Option UInt64 :=
  let run := match text with
    | '+' :: rest => rest
    | _ => text
  if run = [] ∨ !run.all isDigit then none
  else if value run < 2 ^ 64 then some (UInt64.ofNat (value run)) else none

theorem digitValue_digit (n : Nat) : digitValue (digit n) = n % 10 := by
  have all : ∀ d < 10, digitValue (Char.ofNat (48 + d)) = d := by decide
  exact all (n % 10) (Nat.mod_lt _ (by decide))

theorem isDigit_digit (n : Nat) : isDigit (digit n) = true := by
  have all : ∀ d < 10, isDigit (Char.ofNat (48 + d)) = true := by decide
  exact all (n % 10) (Nat.mod_lt _ (by decide))

theorem value_digits (n : Nat) : value (digits n) = n := by
  rw [digits]
  split
  · simp [value, valueFrom, digitValue_digit]; omega
  · have ih := value_digits (n / 10)
    simp only [value, valueFrom] at ih
    simp only [value, valueFrom, List.foldl_append, ih, List.foldl_cons, List.foldl_nil,
      digitValue_digit]
    omega
termination_by n

theorem isDigit_of_mem_digits (n : Nat) : ∀ c ∈ digits n, isDigit c = true := by
  rw [digits]
  split
  · intro c hc; rw [List.mem_singleton.1 hc]; exact isDigit_digit n
  · intro c hc
    rcases List.mem_append.1 hc with h | h
    · exact isDigit_of_mem_digits (n / 10) c h
    · rw [List.mem_singleton.1 h]; exact isDigit_digit n
termination_by n

theorem digits_ne_nil (n : Nat) : digits n ≠ [] := by
  rw [digits]; split <;> simp

end SealGate.Text.Decimal
