import MockCluster.Decimal.Binary64

/-!
The shortest decimal that reads back as a given finite number, and its layout as text.

`shortest` looks at grids of one, two, … significant digits.  On each grid it asks the value's two
neighbours whether they round back to the value; the first grid with a hit wins, of two hits the
nearer, of two equally near ones the even.
-/

namespace MockCluster.Decimal

/-- The number `digits * 10 ^ exponent`. -/
structure Scientific where
  digits : Nat
  exponent : Int
  deriving DecidableEq, Repr, Inhabited

namespace Scientific

def trim (digits : Nat) (exponent : Int) : Scientific :=
  if h : digits ≠ 0 ∧ digits % 10 = 0 then
    trim (digits / 10) (exponent + 1)
  else
    ⟨digits, exponent⟩
termination_by digits
decreasing_by omega

end Scientific

/-- The reals that round to a number, measured in quarters of its last place. -/
structure Neighbourhood where
  low : Nat
  value : Nat
  high : Nat
  closed : Bool
  unit : Nat × Nat

def neighbourhood (x : Binary64) : Neighbourhood :=
  let c := x.coefficient
  let below := if c = twoTo 52 ∧ -1074 < x.exponent then 1 else 2
  { low := 4 * c - below
    value := 4 * c
    high := 4 * c + 2
    closed := c % 2 = 0
    unit := Binary64.powerOfTwo (x.exponent - 2) }

/-- The best point of the grid `10 ^ exponent` inside the neighbourhood. -/
def Neighbourhood.onGrid (n : Neighbourhood) (exponent : Int) : Option Nat :=
  let grid := tenTo exponent.toNat * n.unit.2
  let unit := n.unit.1 * tenTo (-exponent).toNat
  let inside (d : Nat) : Bool :=
    if n.closed then n.low * unit ≤ d * grid ∧ d * grid ≤ n.high * unit
    else n.low * unit < d * grid ∧ d * grid < n.high * unit
  let value := n.value * unit
  let d := value / grid
  match inside d, inside (d + 1) with
  | false, false => none
  | true, false => some d
  | false, true => some (d + 1)
  | true, true =>
    let before := value - d * grid
    let after := (d + 1) * grid - value
    if before < after ∨ (before = after ∧ d % 2 = 0) then some d else some (d + 1)

/-- The number of digits before the point, negative for zeros after it. -/
def decimalOrder (x : Binary64) : Int :=
  let (num, den) := x.ratio
  let guess := Int.fdiv (((Nat.log2 x.coefficient : Int) + x.exponent) * 30103) 100000 + 1
  if tenTo guess.toNat * den ≤ num * tenTo (-guess).toNat then guess + 1 else guess

def shortest (x : Binary64) : Scientific :=
  if x.isZero then
    ⟨0, 0⟩
  else
    let n := neighbourhood x
    let order := decimalOrder x
    let found := (List.range 20).findSome? fun (k : Nat) =>
      (n.onGrid (order - 1 - k)).map fun d => Scientific.trim d (order - 1 - k)
    found.getD ⟨0, 0⟩

structure Layout where
  /-- Whether a decimal whose leading digit stands at this power of ten is written positionally. -/
  isPositional : Int → Bool
  /-- Whether a whole number written positionally keeps one zero after the point. -/
  keepsPoint : Bool

def zeros (n : Nat) : List Char := List.replicate n '0'

def Layout.positional (layout : Layout) (digits : List Char) (exponent : Int) : List Char :=
  if 0 ≤ exponent then
    digits ++ zeros exponent.toNat ++ (if layout.keepsPoint then ['.', '0'] else [])
  else
    let places := (-exponent).toNat
    if places < digits.length then
      digits.take (digits.length - places) ++ '.' :: digits.drop (digits.length - places)
    else
      '0' :: '.' :: zeros (places - digits.length) ++ digits

def scientificText (digits : List Char) (power : Int) : List Char :=
  let mantissa := match digits with
    | first :: second :: rest => first :: '.' :: second :: rest
    | short => short
  mantissa ++ 'e' :: (if power < 0 then '-' else '+') :: (toString power.natAbs).toList

def Layout.render (layout : Layout) (x : Binary64) : List Char :=
  let s := shortest x
  let digits := (toString s.digits).toList
  let power := s.exponent + digits.length - 1
  let body := if layout.isPositional power then layout.positional digits s.exponent
    else scientificText digits power
  if x.negative then '-' :: body else body

end MockCluster.Decimal
