import Mathlib.Order.Monotone.Basic
import MockCluster.Calendar

/-!
A later day has a later date.

A date counted from March is told by an era, a year of it, a month and a day, each found from what
the ones before leave over.  Every one of them grows with the day as long as those before stay, and
going over to years that begin in January moves all months by the same amount.
-/

namespace MockCluster

namespace Date

def daysOfEra : Nat := 146097

/-- The days of an era before one of its years. -/
def yearStart (year : Nat) : Nat := 365 * year + year / 4 - year / 100 + year / 400

/-- The days of an era up to one, the leap days left out. -/
def leapless (dayOfEra : Nat) : Nat :=
  dayOfEra - dayOfEra / 1460 + dayOfEra / 36524 - dayOfEra / 146096

def yearOfEra (dayOfEra : Nat) : Nat := leapless dayOfEra / 365

def dayOfYear (dayOfEra : Nat) : Nat := dayOfEra - yearStart (yearOfEra dayOfEra)

def monthFromMarch (dayOfYear : Nat) : Nat := (5 * dayOfYear + 2) / 153

def dayOfMonth (dayOfYear : Nat) : Nat := dayOfYear - (153 * monthFromMarch dayOfYear + 2) / 5 + 1

def dayOfEra (day : Int) : Nat := ((day + 719468) % daysOfEra).toNat

/-- The months from the March of the year 0 to that of a day. -/
def monthNumber (day : Int) : Int :=
  12 * ((day + 719468) / daysOfEra * 400 + yearOfEra (dayOfEra day)) +
    monthFromMarch (dayOfYear (dayOfEra day))

theorem leapless_mono : Monotone leapless := by
  refine monotone_nat_of_le_succ fun n => ?_
  unfold leapless
  omega

theorem le_leapless_yearStart {year : Nat} (h : year < 400) :
    365 * year ≤ leapless (yearStart year) := by
  -- The divisions leave no formula to compare, but an era has only so many years.
  have hall : ∀ year < 400, 365 * year ≤ leapless (yearStart year) := by decide +kernel
  exact hall year h

theorem leapless_yearEnd_lt {year : Nat} (h : year < 400) :
    leapless (yearStart (year + 1) - 1) < 365 * (year + 1) := by
  have hall : ∀ year < 400, leapless (yearStart (year + 1) - 1) < 365 * (year + 1) := by
    decide +kernel
  exact hall year h

section Era

variable {day : Nat} (h : day < daysOfEra)
include h

theorem yearOfEra_lt : yearOfEra day < 400 := by
  have hmono : leapless day ≤ leapless (daysOfEra - 1) := leapless_mono (Nat.le_sub_one_of_lt h)
  have hlast : leapless (daysOfEra - 1) = 145999 := rfl
  unfold yearOfEra
  omega

/-- A year begins on or before its days. -/
theorem yearStart_le : yearStart (yearOfEra day) ≤ day := by
  have hyear := yearOfEra_lt h
  cases hcase : yearOfEra day with
  | zero => exact Nat.zero_le _
  | succ year =>
      by_contra hlt
      have hmono : leapless day ≤ leapless (yearStart (year + 1) - 1) := leapless_mono (by omega)
      have hend : leapless (yearStart (year + 1) - 1) < 365 * (year + 1) :=
        leapless_yearEnd_lt (by omega)
      unfold yearOfEra at hcase
      omega

theorem lt_yearStart_succ : day < yearStart (yearOfEra day + 1) := by
  by_contra hle
  have hyear := yearOfEra_lt h
  rcases Nat.lt_or_ge (yearOfEra day + 1) 400 with hnext | hlast
  · have hmono := leapless_mono (Nat.le_of_not_lt hle)
    have hstart := le_leapless_yearStart hnext
    unfold yearOfEra at hstart hmono
    omega
  · have hend : yearOfEra day + 1 = 400 := by omega
    have hera : yearStart 400 = daysOfEra := rfl
    rw [hend] at hle
    omega

theorem dayOfYear_le : dayOfYear day ≤ 365 := by
  have hstart := yearStart_le h
  have hend := lt_yearStart_succ h
  have hyear : yearStart (yearOfEra day + 1) ≤ yearStart (yearOfEra day) + 366 := by
    unfold yearStart
    omega
  unfold dayOfYear
  omega

end Era

theorem monthFromMarch_le {day : Nat} (h : day ≤ 365) : monthFromMarch day ≤ 11 := by
  unfold monthFromMarch
  omega

theorem dayOfMonth_le (day : Nat) : dayOfMonth day ≤ 31 := by
  unfold dayOfMonth monthFromMarch
  omega

theorem dayOfEra_lt (day : Int) : dayOfEra day < daysOfEra := by
  have hpos : (0 : Int) ≤ (day + 719468) % daysOfEra := Int.emod_nonneg _ (by decide)
  have hlt : (day + 719468) % daysOfEra < daysOfEra := Int.emod_lt_of_pos _ (by decide)
  unfold dayOfEra
  omega

/-- Within a year the months follow each other, and the days within a month. -/
theorem month_or_day_lt {day later : Nat} (h : day < later) :
    monthFromMarch day < monthFromMarch later ∨
      monthFromMarch day = monthFromMarch later ∧ dayOfMonth day < dayOfMonth later := by
  unfold dayOfMonth monthFromMarch
  omega

theorem monthNumber_or_day_lt {day later : Int} (h : day < later) :
    monthNumber day < monthNumber later ∨
      monthNumber day = monthNumber later ∧
        dayOfMonth (dayOfYear (dayOfEra day)) < dayOfMonth (dayOfYear (dayOfEra later)) := by
  have hday := dayOfEra_lt day
  have hlater := dayOfEra_lt later
  have hyear := yearOfEra_lt hday
  have hmonth := monthFromMarch_le (dayOfYear_le hday)
  have hera : (day + 719468) / daysOfEra ≤ (later + 719468) / daysOfEra :=
    Int.ediv_le_ediv (by decide) (by omega)
  unfold monthNumber
  -- The first of era, year, month and day that differs decides.
  rcases Int.lt_or_eq_of_le hera with hera | hera
  · left
    omega
  have hdays : dayOfEra day < dayOfEra later := by
    have hsplit := Int.emod_add_mul_ediv (day + 719468) daysOfEra
    have hlaterSplit := Int.emod_add_mul_ediv (later + 719468) daysOfEra
    rw [hera] at hsplit
    unfold dayOfEra daysOfEra at *
    omega
  have hyears : yearOfEra (dayOfEra day) ≤ yearOfEra (dayOfEra later) :=
    Nat.div_le_div_right (leapless_mono (Nat.le_of_lt hdays))
  rcases Nat.lt_or_eq_of_le hyears with hyears | hyears
  · left
    omega
  have hdaysOfYear : dayOfYear (dayOfEra day) < dayOfYear (dayOfEra later) := by
    have hstart := yearStart_le hday
    unfold dayOfYear
    rw [← hyears]
    omega
  rw [hera, hyears]
  rcases month_or_day_lt hdaysOfYear with hmonths | ⟨hmonths, hdays⟩
  · left
    omega
  · right
    exact ⟨by rw [hmonths], hdays⟩

theorem ofDay_eq (day : Int) :
    ofDay day =
      { year := (monthNumber day + 2) / 12
        month := ((monthNumber day + 2) % 12).toNat + 1
        day := dayOfMonth (dayOfYear (dayOfEra day)) } := by
  have hyear := yearOfEra_lt (dayOfEra_lt day)
  have hmonth := monthFromMarch_le (dayOfYear_le (dayOfEra_lt day))
  have hdays : dayOfYear (dayOfEra day) = dayOfEra day -
      (365 * yearOfEra (dayOfEra day) + yearOfEra (dayOfEra day) / 4 -
        yearOfEra (dayOfEra day) / 100) := by
    unfold dayOfYear yearStart
    omega
  have hofDay : ∀ days, days = dayOfEra day -
      (365 * yearOfEra (dayOfEra day) + yearOfEra (dayOfEra day) / 4 -
        yearOfEra (dayOfEra day) / 100) → ∀ month, month = (if monthFromMarch days < 10 then
          monthFromMarch days + 3 else monthFromMarch days - 9) →
      ofDay day =
        { year := (day + 719468) / daysOfEra * 400 + yearOfEra (dayOfEra day) +
            (if month ≤ 2 then 1 else 0)
          month := month
          day := dayOfMonth days } := by
    rintro _ rfl _ rfl
    rfl
  rw [hofDay _ hdays _ rfl, Date.mk.injEq]
  unfold monthNumber
  refine ⟨?_, ?_, rfl⟩
  · split <;> split <;> omega
  · split <;> omega

theorem month_le (day : Int) : (ofDay day).month ≤ 12 := by
  rw [ofDay_eq]
  dsimp only
  omega

theorem day_le (day : Int) : (ofDay day).day ≤ 31 := by
  rw [ofDay_eq]
  exact dayOfMonth_le _

/-- Dates in the order of years, months and days. -/
def Before (date later : Date) : Prop :=
  date.year < later.year ∨ date.year = later.year ∧
    (date.month < later.month ∨ date.month = later.month ∧ date.day < later.day)

theorem ofDay_before {day later : Int} (h : day < later) : (ofDay day).Before (ofDay later) := by
  rw [Before, ofDay_eq, ofDay_eq]
  dsimp only
  rcases monthNumber_or_day_lt h with hmonth | ⟨hmonth, hday⟩
  · omega
  · rw [hmonth]
    exact .inr ⟨rfl, .inr ⟨rfl, hday⟩⟩

end Date

end MockCluster
