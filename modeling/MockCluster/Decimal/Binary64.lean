import MockCluster.Decimal.Power

/-!
Finite 64-bit floating-point numbers and their arithmetic, done on natural numbers.

A number is its sign and its exponent and fraction fields read as one natural number, so that two
numbers are equal exactly when their bits are.  Rounding goes to the nearest number, ties to even.
-/

namespace MockCluster

structure Binary64 where
  negative : Bool
  field : Nat
  deriving DecidableEq, Repr, Inhabited

namespace Binary64

/-- The field of an infinity; the fields of finite numbers lie below it. -/
def fieldLimit : Nat := 2047 * twoTo 52

def zero : Binary64 := ⟨false, 0⟩

/-- A finite number is `coefficient * 2 ^ exponent`, up to its sign. -/
def coefficient (x : Binary64) : Nat :=
  if x.field < twoTo 52 then x.field else twoTo 52 + x.field % twoTo 52

def exponent (x : Binary64) : Int :=
  if x.field < twoTo 52 then -1074 else (x.field / twoTo 52 : Nat) - 1075

def isZero (x : Binary64) : Bool := x.field == 0

def neg (x : Binary64) : Binary64 := { x with negative := !x.negative }

/-- The quotient rounded to the nearest natural number, a tie to the even one. -/
def roundQuotient (num den : Nat) : Nat :=
  let quotient := num / den
  let twice := 2 * (num % den)
  if den < twice ∨ (twice = den ∧ quotient % 2 = 1) then quotient + 1 else quotient

def powerOfTwo (exponent : Int) : Nat × Nat :=
  (twoTo exponent.toNat, twoTo (-exponent).toNat)

/-- The largest power `e` with `2 ^ e ≤ num / den`. -/
def binaryOrder (num den : Nat) : Int :=
  let guess : Int := (Nat.log2 num : Int) - (Nat.log2 den : Int)
  let (up, down) := powerOfTwo guess
  if num * down < den * up then guess - 1 else guess

/-- The finite number nearest to `num / den`, none when that lies beyond the largest one. -/
def ofRatio (negative : Bool) (num den : Nat) : Option Binary64 :=
  if num = 0 then
    some ⟨negative, 0⟩
  else
    let exponent := max (-1074) (binaryOrder num den - 52)
    let (up, down) := powerOfTwo exponent
    let field := (exponent + 1074).toNat * twoTo 52 + roundQuotient (num * down) (den * up)
    if field < fieldLimit then some ⟨negative, field⟩ else none

def ofNat (n : Nat) : Option Binary64 := ofRatio false n 1

def ratio (x : Binary64) : Nat × Nat :=
  let (up, down) := powerOfTwo x.exponent
  (x.coefficient * up, down)

def mul (x y : Binary64) : Option Binary64 :=
  let (xNum, xDen) := x.ratio
  let (yNum, yDen) := y.ratio
  ofRatio (x.negative != y.negative) (xNum * yNum) (xDen * yDen)

def div (x y : Binary64) : Option Binary64 :=
  let (xNum, xDen) := x.ratio
  let (yNum, yDen) := y.ratio
  ofRatio (x.negative != y.negative) (xNum * yDen) (xDen * yNum)

/-- The magnitude rounded to a natural number, halves away from zero. -/
def roundMagnitude (x : Binary64) : Nat :=
  let (num, den) := x.ratio
  (2 * num + den) / (2 * den)

end Binary64

end MockCluster
