import MockCluster.Toml.Value

/-!
Integers and floats of TOML files.  An underscore may stand between two digits.
-/

namespace MockCluster.Toml

def moreDigits (fits : Char → Bool) : Reader (List Char)
  | '_' :: c :: rest => if fits c then prepend c (moreDigits fits rest) else none
  | ['_'] => none
  | c :: rest => if fits c then prepend c (moreDigits fits rest) else some ([], c :: rest)
  | [] => some ([], [])

def digits (fits : Char → Bool) : Reader (List Char)
  | c :: rest => if fits c then prepend c (moreDigits fits rest) else none
  | [] => none

/-- Decimal digits; a zero at the front stands alone. -/
def wholeDigits : Reader (List Char)
  | '0' :: rest => some (['0'], rest)
  | text => digits Char.isDigit text

def radixDigit? (radix : Nat) (c : Char) : Option Nat :=
  (hexValue? c).filter (· < radix)

def prefixedInteger (radix : Nat) : Reader Toml := fun text => do
  let (digits, rest) ← digits (fun c => (radixDigit? radix c).isSome) text
  let values ← digits.mapM (radixDigit? radix)
  let value := values.foldl (fun n digit => radix * n + digit) 0
  if value < twoTo 63 then some (.integer value, rest) else none

def fraction : Reader (Option (List Char))
  | '.' :: rest => (digits Char.isDigit rest).map fun (digits, rest) => (some digits, rest)
  | text => some (none, text)

def power : Reader (Option Int)
  | c :: text =>
    if c = 'e' ∨ c = 'E' then do
      let (negative, rest) := FloatValue.splitSign text
      let (digits, rest) ← digits Char.isDigit rest
      let value : Int := FloatValue.natOf digits
      some (some (if negative then -value else value), rest)
    else some (none, c :: text)
  | [] => some (none, [])

/-- A float may be below all finite ones but not above them. -/
def fitsFloat (value : FloatValue) : Bool := value ≠ .infinite false

def decimalNumber : Reader Toml := fun text =>
  match FloatValue.splitSign text with
  | (negative, 'i' :: 'n' :: 'f' :: rest) => some (.float (.infinite negative), rest)
  | (_, 'n' :: 'a' :: 'n' :: rest) => some (.float .notANumber, rest)
  | (negative, body) => do
    let (whole, rest) ← wholeDigits body
    let (fraction, rest) ← fraction rest
    let (power, rest) ← power rest
    match fraction, power with
    | none, none =>
      let value ← readInt64 (if negative then '-' :: whole else whole)
      some (.integer value, rest)
    | _, _ =>
      let fraction := fraction.getD []
      let value := FloatValue.ofDecimal negative (FloatValue.natOf (whole ++ fraction))
        (power.getD 0 - fraction.length)
      if fitsFloat value then some (.float value, rest) else none

def number : Reader Toml
  | '0' :: 'x' :: rest => prefixedInteger 16 rest
  | '0' :: 'o' :: rest => prefixedInteger 8 rest
  | '0' :: 'b' :: rest => prefixedInteger 2 rest
  | text => decimalNumber text

end MockCluster.Toml
