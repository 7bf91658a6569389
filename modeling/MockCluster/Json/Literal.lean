import MockCluster.Json.Tree

/-!
Number literals and the values they stand for.

The digits of a literal fill a 64-bit significand as far as it reaches; the power of ten left over
is then applied in 64-bit floating point, one rounding each.
-/

namespace MockCluster.Json

/-- Digits as numbers below ten, in the order of the text. -/
structure Literal where
  negative : Bool
  whole : List Nat
  fraction : Option (List Nat)
  power : Option (Bool × List Nat × Nat)
  deriving Repr

namespace Literal

def wordLimit : Nat := twoTo 64

def significandOf (digits : List Nat) : Nat :=
  digits.foldl (fun n digit => 10 * n + digit) 0

/-- Appends digits to a significand as long as it fits a word; the rest is given back. -/
def fill : Nat → List Nat → Nat × List Nat
  | significand, [] => (significand, [])
  | significand, digit :: rest =>
    if 10 * significand + digit < wordLimit then fill (10 * significand + digit) rest
    else (significand, digit :: rest)

/-- Powers of ten beyond this one are no 64-bit floats. -/
def largestPower : Nat := 308

def powerOfTen (n : Nat) : Option Binary64 := Binary64.ofNat (tenTo n)

def divideByPower (value : Binary64) (power : Nat) : Option Binary64 :=
  if power ≤ largestPower then
    (powerOfTen power).bind value.div
  else if value.isZero then
    some value
  else
    ((powerOfTen largestPower).bind value.div).bind fun quotient =>
      divideByPower quotient (power - largestPower)
termination_by power
decreasing_by unfold largestPower at *; omega

def scale (significand : Nat) (power : Int) : Option Binary64 :=
  (Binary64.ofNat significand).bind fun value =>
    if power < 0 then divideByPower value power.natAbs
    else if power ≤ largestPower then (powerOfTen power.toNat).bind value.mul
    else if value.isZero then some value
    else none

/-- The number of leading digits after which a power of ten no longer fits 32 bits. -/
def powerOverflow? (digits : List Nat) : Option Nat :=
  go 0 0 digits
where
  go (count value : Nat) : List Nat → Option Nat
    | [] => none
    | digit :: rest =>
      if 10 * value + digit < twoTo 31 then go (count + 1) (10 * value + digit) rest
      else some (count + 1)

def clampPower (power : Int) : Int :=
  max (-twoTo 31) (min (twoTo 31 - 1) power)

def signed (negative : Bool) (value : Binary64) : Scalar :=
  .number (.float (if negative then value.neg else value))

def toFloat (literal : Literal) (stop : Nat) : Scalar :=
  let (whole, skipped) := fill 0 literal.whole
  let (significand, places) := match literal.fraction with
    | none => (whole, 0)
    | some digits =>
      let (filled, unused) := fill whole digits
      (filled, digits.length - unused.length)
  let start : Int := (skipped.length : Int) - (places : Int)
  let scaled (power : Int) : Scalar :=
    match scale significand power with
    | some value => signed literal.negative value
    | none => .unreadable ⟨.numberTooLarge, stop⟩
  match literal.power with
  | none => scaled start
  | some (negative, digits, offset) =>
    match powerOverflow? digits with
    | some count =>
      if significand ≠ 0 ∧ !negative then .unreadable ⟨.numberTooLarge, offset + count⟩
      else signed literal.negative Binary64.zero
    | none =>
      let power := (significandOf digits : Int)
      scaled (clampPower (if negative then start - power else start + power))

/-- An integer stays one when it fits a word; a negative zero does not. -/
def toScalar (literal : Literal) (stop : Nat) : Scalar :=
  let magnitude := significandOf literal.whole
  if literal.fraction.isSome || literal.power.isSome then literal.toFloat stop
  else if literal.negative then
    if 0 < magnitude ∧ magnitude ≤ twoTo 63 then .number (.integer (-(magnitude : Int)))
    else literal.toFloat stop
  else if magnitude < wordLimit then .number (.integer magnitude)
  else literal.toFloat stop

end Literal

end MockCluster.Json
