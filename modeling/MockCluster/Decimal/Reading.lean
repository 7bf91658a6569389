import MockCluster.Decimal.Shortest

/-!
Decimal text read as floating-point numbers, infinities and the like included.
-/

namespace MockCluster

inductive FloatValue where
  | finite (value : Binary64)
  | infinite (negative : Bool)
  | notANumber
  deriving DecidableEq, Repr

namespace FloatValue

/-- The number nearest to `digits * 10 ^ power`.  Powers far outside the range of 64-bit floats are
settled by the number of digits. -/
def ofDecimal (negative : Bool) (digits : Nat) (power : Int) : FloatValue :=
  let size : Int := power + (toString digits).length
  if digits = 0 ∨ size < -400 then .finite ⟨negative, 0⟩
  else if size > 400 then .infinite negative
  else
    match Binary64.ofRatio negative (digits * tenTo power.toNat) (tenTo (-power).toNat) with
    | some value => .finite value
    | none => .infinite negative

def splitSign : List Char → Bool × List Char
  | '-' :: rest => (true, rest)
  | '+' :: rest => (false, rest)
  | rest => (false, rest)

def natOf (digits : List Char) : Nat :=
  digits.foldl (fun n c => 10 * n + (c.toNat - 48)) 0

def readPower : List Char → Option Int
  | [] => some 0
  | c :: rest =>
    if c = 'e' ∨ c = 'E' then
      let (negative, digits) := splitSign rest
      if digits ≠ [] ∧ digits.all Char.isDigit then
        some (if negative then -natOf digits else natOf digits)
      else none
    else none

/-- Reads digits with an optional fraction and power; one of the two runs of digits may be missing. -/
def readDigits (negative : Bool) (text : List Char) : Option FloatValue :=
  let whole := text.takeWhile Char.isDigit
  let rest := text.dropWhile Char.isDigit
  let (fraction, rest) :=
    match rest with
    | '.' :: rest => (rest.takeWhile Char.isDigit, rest.dropWhile Char.isDigit)
    | rest => ([], rest)
  if whole = [] ∧ fraction = [] then none
  else
    (readPower rest).map fun power =>
      ofDecimal negative (natOf (whole ++ fraction)) (power - fraction.length)

def read (text : String) : Option FloatValue :=
  let (negative, body) := splitSign text.toList
  let name := String.ofList (body.map Char.toLower)
  if name = "inf" ∨ name = "infinity" then some (.infinite negative)
  else if name = "nan" then some .notANumber
  else readDigits negative body

/-- The fewest digits that read back, never with a power of ten. -/
def plainLayout : Decimal.Layout where
  isPositional _ := true
  keepsPoint := false

def text : FloatValue → String
  | .finite value => String.ofList (plainLayout.render value)
  | .infinite negative => if negative then "-inf" else "inf"
  | .notANumber => "NaN"

/-- Rounded to a 64-bit natural number, as near as there is one. -/
def toWord : FloatValue → Nat
  | .finite value => if value.negative then 0 else min value.roundMagnitude (twoTo 64 - 1)
  | .infinite negative => if negative then 0 else twoTo 64 - 1
  | .notANumber => 0

end FloatValue

def readInt64 (text : List Char) : Option Int :=
  let (negative, digits) := FloatValue.splitSign text
  if digits = [] ∨ !digits.all Char.isDigit then none
  else
    let magnitude := FloatValue.natOf digits
    if negative then if magnitude ≤ twoTo 63 then some (-magnitude) else none
    else if magnitude < twoTo 63 then some magnitude else none

end MockCluster
