/-!
Instants of universal time and their text, `2024-01-01T12:00:00.000Z`.

Dates follow the Gregorian rules throughout.  Years before 0 and after 9999 are written with a sign.
A leap second is an instant within the last second of a minute with a billion nanoseconds or more.
-/

namespace MockCluster

structure Date where
  year : Int
  month : Nat
  day : Nat
  deriving DecidableEq, Repr

/-- The date of a day counted from the first of January 1970.  Years are taken to begin in March, so
that the leap day comes last, in eras of four hundred years. -/
def Date.ofDay (day : Int) : Date :=
  let fromMarch := day + 719468
  let era := fromMarch / 146097
  let dayOfEra := (fromMarch % 146097).toNat
  let yearOfEra :=
    (dayOfEra - dayOfEra / 1460 + dayOfEra / 36524 - dayOfEra / 146096) / 365
  let dayOfYear := dayOfEra - (365 * yearOfEra + yearOfEra / 4 - yearOfEra / 100)
  let monthFromMarch := (5 * dayOfYear + 2) / 153
  let month := if monthFromMarch < 10 then monthFromMarch + 3 else monthFromMarch - 9
  { year := era * 400 + yearOfEra + (if month ≤ 2 then 1 else 0)
    month := month
    day := dayOfYear - (153 * monthFromMarch + 2) / 5 + 1 }

def zeroPadded (width n : Nat) : List Char :=
  (toString n).toList.leftpad width '0'

def yearText (year : Int) : List Char :=
  if 0 ≤ year ∧ year ≤ 9999 then zeroPadded 4 year.toNat
  else (if year < 0 then '-' else '+') :: zeroPadded 4 year.natAbs

def Date.text (date : Date) : List Char :=
  yearText date.year ++ '-' :: zeroPadded 2 date.month ++ '-' :: zeroPadded 2 date.day

/-- Seconds are counted from the beginning of 1970. -/
structure Instant where
  second : Int
  nanos : Nat
  deriving DecidableEq, Repr

namespace Instant

def billion : Nat := 1000000000

/-- The beginning of the year -262143. -/
def firstSecond : Int := -8334601228800

/-- The last second of the year 262142. -/
def lastSecond : Int := 8210266876799

def isValid (instant : Instant) : Bool :=
  firstSecond ≤ instant.second && instant.second ≤ lastSecond &&
    (instant.nanos < billion || (instant.nanos < 2 * billion && instant.second % 60 = 59))

/-- The instant some minutes before; going back or forth leaves a leap second. -/
def minutesBefore (instant : Instant) (minutes : Int) : Instant :=
  if minutes = 0 then instant
  else if instant.nanos < billion then ⟨instant.second - 60 * minutes, instant.nanos⟩
  else
    ⟨instant.second - 60 * minutes + (if minutes > 0 then 1 else 0), instant.nanos - billion⟩

/-- The text with milliseconds, the rest cut off. -/
def text (instant : Instant) : List Char :=
  let ofDay := (instant.second % 86400).toNat
  let leap := instant.nanos / billion
  (Date.ofDay (instant.second / 86400)).text ++ 'T' :: zeroPadded 2 (ofDay / 3600) ++
    ':' :: zeroPadded 2 (ofDay / 60 % 60) ++ ':' :: zeroPadded 2 (ofDay % 60 + leap) ++
    '.' :: zeroPadded 3 (instant.nanos % billion / 1000000) ++ ['Z']

def reaches (now : Instant) (minutes : Int) : Bool :=
  (now.minutesBefore minutes).isValid

def timestamp (now : Instant) (minutes : Int) : String :=
  String.ofList (now.minutesBefore minutes).text

end Instant

end MockCluster
