import Mathlib.Order.Monotone.Basic
import Mathlib.Tactic.Common
import Mathlib.Tactic.IntervalCases

/-
  The proleptic Gregorian calendar from year 0 on.

  A day is numbered by counting the years, months and days
  before it.  Counting needs no formula, so that the number
  can be compared with one that a program computes.

  Main declarations:
    * `Calendar.Date`
    * `Calendar.Date.dayNumber`
    * `Calendar.Date.dayNumber_lt`
    * `Calendar.daysBeforeYear_eq`
-/

------------------------------------------------------------
-- Lengths Of Years And Months
------------------------------------------------------------

namespace Calendar

def isLeapYear (year : Nat) : Bool :=
  year % 4 == 0 && (year % 100 != 0 || year % 400 == 0)

def daysInMonth (year : Nat) : Nat → Nat
| 1 | 3 | 5 | 7 | 8 | 10 | 12 => 31
| 4 | 6 | 9 | 11 => 30
| 2 => if isLeapYear year then 29 else 28
| _ => 0

/- Days of a year before the first of a month. -/
def daysBeforeMonth (year : Nat) : Nat → Nat
| 0 => 0
| month + 1 => daysBeforeMonth year month + daysInMonth year month

def daysInYear (year : Nat) : Nat :=
  daysBeforeMonth year 13

/- Days before the first of January, from year 0 on. -/
def daysBeforeYear : Nat → Nat
| 0 => 0
| year + 1 => daysBeforeYear year + daysInYear year

theorem daysBeforeMonth_mono
    (year : Nat) :
    Monotone (daysBeforeMonth year) :=
  monotone_nat_of_le_succ
    (fun _ => Nat.le_add_right _ _)

theorem daysBeforeYear_mono :
    Monotone daysBeforeYear :=
  monotone_nat_of_le_succ
    (fun _ => Nat.le_add_right _ _)

theorem daysInYear_eq
    (year : Nat) :
    daysInYear year =
      if isLeapYear year then 366 else 365 := by
  cases hLeap : isLeapYear year <;>
    simp [daysInYear, daysBeforeMonth, daysInMonth, hLeap]

/- From March on, months of five repeat: 31 30 31 30 31. -/
theorem daysBeforeMonth_eq
    (year month : Nat)
    (hPos : 1 ≤ month)
    (hLe : month ≤ 12) :
    daysBeforeMonth year month =
      if month ≤ 2 then 31 * (month - 1)
      else
        (if isLeapYear year then 60 else 59) +
          (153 * (month - 3) + 2) / 5 := by
  cases hLeap : isLeapYear year <;>
    interval_cases month <;>
      simp [daysBeforeMonth, daysInMonth, hLeap]

/- The count of the days before a year in closed form. -/
theorem daysBeforeYear_eq
    (year : Nat) :
    (daysBeforeYear year : Int) =
      365 * year + ((year : Int) - 1) / 4 -
          ((year : Int) - 1) / 100 +
        ((year : Int) - 1) / 400 + 1 := by
  induction year with
  | zero => decide
  | succ year ih =>
      have hYear := daysInYear_eq year
      have hFour : (year : Int) / 4 =
          ((year : Int) - 1) / 4 +
            if year % 4 = 0 then 1 else 0 := by
        split <;> omega
      have hHundred : (year : Int) / 100 =
          ((year : Int) - 1) / 100 +
            if year % 100 = 0 then 1 else 0 := by
        split <;> omega
      have hFourHundred : (year : Int) / 400 =
          ((year : Int) - 1) / 400 +
            if year % 400 = 0 then 1 else 0 := by
        split <;> omega
      have hCentury : year % 400 = 0 → year % 100 = 0 := by
        omega
      have hQuarter : year % 100 = 0 → year % 4 = 0 := by
        omega
      unfold daysBeforeYear
      push_cast
      simp only [add_sub_cancel_right]
      rw [hFour, hHundred, hFourHundred, ih, hYear]
      unfold isLeapYear
      by_cases h4 : year % 4 = 0 <;>
        by_cases h100 : year % 100 = 0 <;>
          by_cases h400 : year % 400 = 0 <;>
            simp [h4, h100, h400] at hCentury hQuarter ⊢ <;>
              omega

end Calendar

------------------------------------------------------------
-- Dates
------------------------------------------------------------

namespace Calendar

/- A day that exists. -/
structure Date where
  year : Nat
  month : Nat
  day : Nat
  month_pos : 1 ≤ month
  month_le : month ≤ 12
  day_pos : 1 ≤ day
  day_le : day ≤ daysInMonth year month

namespace Date

/- The number of a day; the first day of year 0 is day 1. -/
def dayNumber (date : Date) : Nat :=
  daysBeforeYear date.year +
    daysBeforeMonth date.year date.month + date.day

/- The order in which days follow each other. -/
def Before (earlier later : Date) : Prop :=
  earlier.year < later.year ∨
    (earlier.year = later.year ∧
      (earlier.month < later.month ∨
        (earlier.month = later.month ∧
          earlier.day < later.day)))

/- A day lies in its month. -/
theorem dayNumber_le_month
    (date : Date) :
    date.dayNumber ≤
      daysBeforeYear date.year +
        daysBeforeMonth date.year (date.month + 1) := by
  have hDay := date.day_le
  have hMonth :
      daysBeforeMonth date.year (date.month + 1) =
        daysBeforeMonth date.year date.month +
          daysInMonth date.year date.month :=
    rfl
  unfold dayNumber
  omega

/- A day lies in its year. -/
theorem dayNumber_le_year
    (date : Date) :
    date.dayNumber ≤ daysBeforeYear (date.year + 1) := by
  have hMonth :
      daysBeforeMonth date.year (date.month + 1) ≤
        daysInYear date.year :=
    daysBeforeMonth_mono date.year
      (Nat.succ_le_succ date.month_le)
  have hDay := date.dayNumber_le_month
  unfold daysBeforeYear
  omega

/- A later day has a greater number. -/
theorem dayNumber_lt
    {earlier later : Date}
    (hBefore : earlier.Before later) :
    earlier.dayNumber < later.dayNumber := by
  have hPositive := later.day_pos
  rcases hBefore with hYear | ⟨hYear, hMonth | ⟨hMonth, hDay⟩⟩
  · have hStart :
        daysBeforeYear (earlier.year + 1) ≤
          daysBeforeYear later.year :=
      daysBeforeYear_mono hYear
    have hInside := earlier.dayNumber_le_year
    unfold dayNumber at hInside ⊢
    omega
  · have hStart :
        daysBeforeMonth later.year (earlier.month + 1) ≤
          daysBeforeMonth later.year later.month :=
      daysBeforeMonth_mono later.year hMonth
    have hInside := earlier.dayNumber_le_month
    unfold dayNumber at hInside ⊢
    rw [hYear] at hInside ⊢
    omega
  · unfold dayNumber
    rw [hYear, hMonth]
    omega

/- Of two days one comes first, unless they are the same. -/
theorem before_or_eq_or_after
    (first second : Date) :
    first.Before second ∨ first = second ∨
      second.Before first := by
  cases first
  cases second
  simp only [Before, Date.mk.injEq]
  omega

end Date

end Calendar
