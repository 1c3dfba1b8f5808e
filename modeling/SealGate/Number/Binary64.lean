import SealGate.Number.Saturating

/-! Double-precision numbers without floating-point arithmetic. A finite double is given by the 63
bits below its sign; its value is an integer times a power of two, held as an exact quotient.
`nearest` rounds any quotient to the nearest double, a tie to the even one. `shortest` gives the
fewest decimal digits that read back as the double, and of those the ones nearest to it. -/

namespace SealGate.Number

/-- A nonnegative quotient. -/
structure Quotient where
  num : Nat
  den : Nat

namespace Quotient

/-- The quotient times a power of two. -/
def scaleTwo (q : Quotient) : Int → Quotient
  | .ofNat k => ⟨q.num * 2 ^ k, q.den⟩
  | .negSucc k => ⟨q.num, q.den * 2 ^ (k + 1)⟩

/-- The quotient times a power of ten. -/
def scaleTen (q : Quotient) : Int → Quotient
  | .ofNat k => ⟨q.num * 10 ^ k, q.den⟩
  | .negSucc k => ⟨q.num, q.den * 10 ^ (k + 1)⟩

def mul (a b : Quotient) : Quotient := ⟨a.num * b.num, a.den * b.den⟩

def div (a b : Quotient) : Quotient := ⟨a.num * b.den, a.den * b.num⟩

/-- The nearest integer, a tie to the even one. -/
def round (q : Quotient) : Nat :=
  let whole := q.num / q.den
  let twice := 2 * (q.num % q.den)
  if twice < q.den then whole
  else if q.den < twice then whole + 1
  else whole + whole % 2

def le (a b : Quotient) : Bool := a.num * b.den ≤ b.num * a.den

def lt (a b : Quotient) : Bool := a.num * b.den < b.num * a.den

end Quotient

namespace Binary64

/-- The bits of infinity; every finite double has smaller ones. -/
def infinity : Nat := 2047 * 2 ^ 52

/-- The binary exponent that leaves a quotient between 2^52 and 2^53, but not below that of the
smallest doubles. -/
def exponentOf (q : Quotient) : Int :=
  let guess : Int := (Nat.log2 q.num : Int) - (Nat.log2 q.den : Int) - 52
  let exponent := if (q.scaleTwo (-guess)).lt ⟨2 ^ 52, 1⟩ then guess - 1 else guess
  max exponent (-1074)

/-- The bits of the double nearest to a quotient. A quotient too large for a double has bits at or
above those of infinity. -/
def nearest (q : Quotient) : Nat :=
  if q.num = 0 then 0
  else
    let exponent := exponentOf q
    (exponent + 1074).toNat * 2 ^ 52 + (q.scaleTwo (-exponent)).round

/-- The integer and the binary exponent of a double. -/
def parts (bits : Nat) : Nat × Int :=
  let biased : Nat := bits / 2 ^ 52
  if biased = 0 then (bits, -1074) else (bits % 2 ^ 52 + 2 ^ 52, (biased : Int) - 1075)

def value (bits : Nat) : Quotient :=
  (Quotient.mk (parts bits).1 1).scaleTwo (parts bits).2

/-- The quotients that read back as a double: those between the midpoints to its neighbours, the
midpoints included when its integer is even. -/
def readsBack (bits : Nat) (q : Quotient) : Bool :=
  let (m, e) := parts bits
  let low : Quotient :=
    if m = 2 ^ 52 ∧ -1074 < e then (Quotient.mk (4 * m - 1) 1).scaleTwo (e - 2)
    else (Quotient.mk (2 * m - 1) 1).scaleTwo (e - 1)
  let high : Quotient := (Quotient.mk (2 * m + 1) 1).scaleTwo (e - 1)
  if m % 2 = 0 then low.le q && q.le high else low.lt q && q.lt high

/-- The number of decimal digits before the point of a quotient; zero or less below one tenth. -/
def decimalWidth (q : Quotient) : Int :=
  let guess : Int := (((Nat.log2 q.num : Int) - (Nat.log2 q.den : Int)) * 30103) / (100000 : Int)
  let atLeast (k : Int) : Bool := ((Quotient.mk 1 1).scaleTen k).le q
  if atLeast (guess + 1) then guess + 2
  else if atLeast guess then guess + 1
  else if atLeast (guess - 1) then guess
  else guess - 1

/-- The two multiples of `10 ^ k` around a quotient that read back, the nearer one first. -/
def candidate? (bits : Nat) (q : Quotient) (k : Int) : Option Nat :=
  let scaled := q.scaleTen (-k)
  let down := scaled.num / scaled.den
  let near := scaled.round
  let far := if near = down then down + 1 else down
  let fits (n : Nat) : Bool := n ≠ 0 && readsBack bits ((Quotient.mk n 1).scaleTen k)
  if fits near then some near else if fits far then some far else none

/-- The shortest digits with at least `17 - tries` of them, and the power of ten of the last one. -/
def shortestFrom (bits : Nat) (q : Quotient) (width : Int) : (tries : Nat) → Nat × Int
  | 0 => ((q.scaleTen (17 - width)).round, width - 17)
  | tries + 1 =>
    let k := width - (17 - tries : Nat)
    match candidate? bits q k with
    | some n => (n, k)
    | none => shortestFrom bits q width tries

/-- The integer `n` and exponent `k` of the shortest decimal `n * 10 ^ k` of a positive double. -/
def shortest (bits : Nat) : Nat × Int :=
  let q := value bits
  shortestFrom bits q (decimalWidth q) 17

end Binary64

end SealGate.Number
