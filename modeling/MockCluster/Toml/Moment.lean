import MockCluster.Calendar
import MockCluster.Decimal.Reading
import MockCluster.Toml.Lexeme

/-!
Dates and times of TOML files: `1979-05-27T07:32:00.5-07:00`, a date alone or a time of day alone.
-/

namespace MockCluster.Toml

structure ClockTime where
  hour : Nat
  minute : Nat
  second : Nat
  nanos : Nat
  deriving DecidableEq, Repr

inductive ClockOffset where
  | universal
  | minutes (value : Int)
  deriving DecidableEq, Repr

inductive Moment where
  | date (day : Date)
  | time (clock : ClockTime)
  | both (day : Date) (clock : ClockTime) (offset? : Option ClockOffset)
  deriving DecidableEq, Repr

def nanosText (nanos : Nat) : List Char :=
  if nanos = 0 then []
  else '.' :: ((zeroPadded 9 nanos).reverse.dropWhile (· = '0')).reverse

def ClockTime.text (time : ClockTime) : List Char :=
  zeroPadded 2 time.hour ++ ':' :: zeroPadded 2 time.minute ++ ':' :: zeroPadded 2 time.second ++
    nanosText time.nanos

def ClockOffset.text : ClockOffset → List Char
  | .universal => ['Z']
  | .minutes value =>
    (if value < 0 then '-' else '+') :: zeroPadded 2 (value.natAbs / 60) ++
      ':' :: zeroPadded 2 (value.natAbs % 60)

def Moment.text : Moment → List Char
  | .date day => day.text
  | .time clock => clock.text
  | .both day clock offset? =>
    day.text ++ 'T' :: clock.text ++ (offset?.map ClockOffset.text).getD []

def fixedDigits (count : Nat) : Reader Nat := fun text =>
  let digits := text.take count
  if digits.length = count ∧ digits.all Char.isDigit then
    some (FloatValue.natOf digits, text.drop count)
  else none

def twoDigits (least greatest : Nat) : Reader Nat := fun text =>
  (fixedDigits 2 text).filter fun (value, _) => least ≤ value && value ≤ greatest

def daysOfMonth (year month : Nat) : Nat :=
  if month = 2 then
    if year % 4 = 0 ∧ (year % 100 ≠ 0 ∨ year % 400 = 0) then 29 else 28
  else if month ∈ [4, 6, 9, 11] then 30
  else 31

def expect (c : Char) : List Char → Option (List Char)
  | d :: rest => if d = c then some rest else none
  | [] => none

def date : Reader Date := fun text => do
  let (year, rest) ← fixedDigits 4 text
  let (month, rest) ← twoDigits 1 12 (← expect '-' rest)
  let (day, rest) ← twoDigits 1 (daysOfMonth year month) (← expect '-' rest)
  some (⟨year, month, day⟩, rest)

/-- The fraction of a second, if there is one; what is finer than a nanosecond is cut off. -/
def nanos : Reader Nat
  | '.' :: rest =>
    let digits := rest.takeWhile Char.isDigit
    if digits = [] then none
    else
      some (FloatValue.natOf ((digits.take 9).rightpad 9 '0'), rest.dropWhile Char.isDigit)
  | text => some (0, text)

def clockTime : Reader ClockTime := fun text => do
  let (hour, rest) ← twoDigits 0 23 text
  let (minute, rest) ← twoDigits 0 59 (← expect ':' rest)
  let (second, rest) ← twoDigits 0 60 (← expect ':' rest)
  let (nanos, rest) ← nanos rest
  some (⟨hour, minute, second, nanos⟩, rest)

def clockOffset : Reader ClockOffset
  | 'Z' :: rest | 'z' :: rest => some (.universal, rest)
  | sign :: rest =>
    if sign = '+' ∨ sign = '-' then do
      let (hours, rest) ← twoDigits 0 23 rest
      let (minutes, rest) ← twoDigits 0 59 (← expect ':' rest)
      let value : Int := hours * 60 + minutes
      some (.minutes (if sign = '-' then -value else value), rest)
    else none
  | [] => none

def timeAfterDate : Reader ClockTime
  | c :: rest => if c = 'T' ∨ c = 't' ∨ c = ' ' then clockTime rest else none
  | [] => none

def moment : Reader Moment := fun text =>
  match date text with
  | some (date, rest) =>
    match timeAfterDate rest with
    | some (time, rest) =>
      match clockOffset rest with
      | some (offset, rest) => some (.both date time (some offset), rest)
      | none => some (.both date time none, rest)
    | none => some (.date date, rest)
  | none => (clockTime text).map fun (time, rest) => (.time time, rest)

end MockCluster.Toml
