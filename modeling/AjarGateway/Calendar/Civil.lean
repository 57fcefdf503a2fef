import AjarGateway.Calendar.Gregorian
import Mathlib.Logic.Function.Iterate

/-
  The proleptic Gregorian calendar, before year 0 as well.

  The calendar repeats itself every 400 years, so a date is
  numbered by its place in the first 400 years and by the
  cycles before it.  Dates are counted by walking from each
  day to the next one, in either direction.

  Key definitions include:
    * `Calendar.Civil.Date`
    * `Calendar.Civil.Date.next`
    * `Calendar.Civil.Date.dayNumber`
    * `Calendar.Civil.DaysApart`

  Key theorems include:
    * `Calendar.Civil.Date.dayNumber_next`
    * `Calendar.Civil.Date.dayNumber_injective`
    * `Calendar.Civil.daysApart_iff`
-/

------------------------------------------------------------
-- Years Before And After Year 0
------------------------------------------------------------

namespace Calendar

namespace Civil

def isLeapYear (year : Int) : Bool :=
  year % 4 == 0 && (year % 100 != 0 || year % 400 == 0)

def daysInMonth (year : Int) : Nat → Nat
| 1 | 3 | 5 | 7 | 8 | 10 | 12 => 31
| 4 | 6 | 9 | 11 => 30
| 2 => if isLeapYear year then 29 else 28
| _ => 0

/- The year of the first 400 years that a year repeats. -/
def cycleYear (year : Int) : Nat :=
  (year % 400).toNat

theorem cycleYear_cast
    (year : Int) :
    (cycleYear year : Int) = year % 400 := by
  unfold cycleYear
  omega

theorem cycleYear_lt
    (year : Int) :
    cycleYear year < 400 := by
  unfold cycleYear
  omega

/- The year after, in the same cycle or in the next one. -/
theorem cycleYear_succ
    (year : Int) :
    (cycleYear (year + 1) = cycleYear year + 1 ∧
        (year + 1) / 400 = year / 400) ∨
      (cycleYear year = 399 ∧ cycleYear (year + 1) = 0 ∧
        (year + 1) / 400 = year / 400 + 1) := by
  unfold cycleYear
  omega

/- Years at one place of the cycle have equal months. -/
theorem daysInMonth_eq
    {year : Int}
    {counted : Nat}
    (hCycle : year % 400 = (counted : Int) % 400)
    (month : Nat) :
    daysInMonth year month =
      Calendar.daysInMonth counted month := by
  have hLeap :
      isLeapYear year = Calendar.isLeapYear counted := by
    rw [Bool.eq_iff_iff]
    simp only [Calendar.isLeapYear, isLeapYear,
      Bool.and_eq_true, Bool.or_eq_true, beq_iff_eq,
      bne_iff_ne]
    omega
  unfold Calendar.daysInMonth daysInMonth
  generalize isLeapYear year = leap at hLeap ⊢
  cases hLeap
  rfl

theorem daysInMonth_cycleYear
    (year : Int)
    (month : Nat) :
    daysInMonth year month =
      Calendar.daysInMonth (cycleYear year) month := by
  apply daysInMonth_eq
  rw [cycleYear_cast, Int.emod_emod]

theorem daysInMonth_natCast
    (year month : Nat) :
    daysInMonth year month =
      Calendar.daysInMonth year month :=
  daysInMonth_eq rfl month

/- A cycle of 400 years has 146097 days. -/
theorem daysBeforeYear_cycle :
    daysBeforeYear 400 = 146097 := by
  have hYear := daysBeforeYear_eq 400
  omega

end Civil

end Calendar

------------------------------------------------------------
-- Dates
------------------------------------------------------------

namespace Calendar

namespace Civil

/- A day that exists, in any year. -/
structure Date where
  year : Int
  month : Nat
  day : Nat
  month_pos : 1 ≤ month
  month_le : month ≤ 12
  day_pos : 1 ≤ day
  day_le : day ≤ daysInMonth year month

theorem daysInMonth_pos
    (year : Int)
    (month : Nat)
    (hPos : 1 ≤ month)
    (hLe : month ≤ 12) :
    1 ≤ daysInMonth year month := by
  cases hLeap : isLeapYear year <;>
    interval_cases month <;>
      simp [daysInMonth, hLeap]

theorem daysInMonth_le
    (year : Int)
    (month : Nat) :
    daysInMonth year month ≤ 31 := by
  unfold daysInMonth
  repeat' split
  all_goals decide

namespace Date

def newYear (year : Int) : Date where
  year := year
  month := 1
  day := 1
  month_pos := le_refl 1
  month_le := by decide
  day_pos := le_refl 1
  day_le := daysInMonth_pos _ _ (le_refl 1) (by decide)

/- The day after: in the month, the year, or the next one. -/
def next (date : Date) : Date :=
  if hDay : date.day < daysInMonth date.year date.month then
    { date with
      day := date.day + 1
      day_pos := Nat.le_add_left _ _
      day_le := hDay }
  else if hMonth : date.month < 12 then
    { year := date.year
      month := date.month + 1
      day := 1
      month_pos := Nat.le_add_left _ _
      month_le := hMonth
      day_pos := le_refl 1
      day_le :=
        daysInMonth_pos _ _ (Nat.le_add_left _ _) hMonth }
  else
    newYear (date.year + 1)

theorem next_year
    (date : Date) :
    date.next.year = date.year ∨
      date.next.year = date.year + 1 := by
  unfold next
  split
  · exact .inl rfl
  · split
    · exact .inl rfl
    · exact .inr rfl

/- The same day in the first 400 years. -/
def inCycle (date : Date) : Calendar.Date where
  year := cycleYear date.year
  month := date.month
  day := date.day
  month_pos := date.month_pos
  month_le := date.month_le
  day_pos := date.day_pos
  day_le := by
    rw [← daysInMonth_cycleYear]
    exact date.day_le

/- Days of the cycles before, and of the cycle so far. -/
def dayNumber (date : Date) : Int :=
  146097 * (date.year / 400) + date.inCycle.dayNumber

/- The order in which days follow each other. -/
def Before (earlier later : Date) : Prop :=
  earlier.year < later.year ∨
    (earlier.year = later.year ∧
      (earlier.month < later.month ∨
        (earlier.month = later.month ∧
          earlier.day < later.day)))

end Date

end Civil

end Calendar

------------------------------------------------------------
-- Day Numbers
------------------------------------------------------------

namespace Calendar

namespace Civil

namespace Date

theorem inCycle_dayNumber_pos
    (date : Date) :
    1 ≤ date.inCycle.dayNumber :=
  le_trans date.day_pos (Nat.le_add_left _ _)

/- A cycle ends with its 146097th day. -/
theorem inCycle_dayNumber_le
    (date : Date) :
    date.inCycle.dayNumber ≤ 146097 := by
  have hYear := date.inCycle.dayNumber_le_year
  have hCycle :
      daysBeforeYear (cycleYear date.year + 1) ≤
        daysBeforeYear 400 :=
    daysBeforeYear_mono (cycleYear_lt date.year)
  rw [daysBeforeYear_cycle] at hCycle
  exact le_trans hYear hCycle

/- The day after has the next number. -/
theorem dayNumber_next
    (date : Date) :
    date.next.dayNumber = date.dayNumber + 1 := by
  have hDays := daysInMonth_cycleYear date.year date.month
  have hMonths :
      daysBeforeMonth (cycleYear date.year)
          (date.month + 1) =
        daysBeforeMonth (cycleYear date.year) date.month +
          Calendar.daysInMonth (cycleYear date.year)
            date.month :=
    rfl
  have hEnd := date.day_le
  unfold next
  by_cases hDay :
      date.day < daysInMonth date.year date.month
  · rw [dif_pos hDay]
    simp only [dayNumber, inCycle, Calendar.Date.dayNumber]
    omega
  · rw [dif_neg hDay]
    by_cases hMonth : date.month < 12
    · rw [dif_pos hMonth]
      simp only [dayNumber, inCycle,
        Calendar.Date.dayNumber, hMonths]
      omega
    · -- the last day of the year
      have hDecember : date.month = 12 :=
        le_antisymm date.month_le (Nat.le_of_not_lt hMonth)
      have hYear :
          daysBeforeYear (cycleYear date.year + 1) =
            daysBeforeYear (cycleYear date.year) +
              daysBeforeMonth (cycleYear date.year) (12 + 1) :=
        rfl
      have hFirst :
          daysBeforeMonth (cycleYear (date.year + 1)) 1 = 0 :=
        rfl
      rw [hDecember] at hMonths hDays hEnd hDay
      rw [dif_neg hMonth]
      simp only [dayNumber, inCycle, newYear,
        Calendar.Date.dayNumber, hFirst, hDecember]
      rcases cycleYear_succ date.year with
        ⟨hNext, hSame⟩ | ⟨hLast, hNext, hAfter⟩
      · rw [hNext, hSame]
        omega
      · have hStart : daysBeforeYear 0 = 0 := rfl
        rw [hLast, daysBeforeYear_cycle] at hYear
        rw [hLast] at hMonths hDays
        rw [hNext, hAfter, hStart, hLast]
        omega

/- A later day has a greater number. -/
theorem dayNumber_lt
    {earlier later : Date}
    (hBefore : earlier.Before later) :
    earlier.dayNumber < later.dayNumber := by
  have hPos := later.inCycle_dayNumber_pos
  have hLe := earlier.inCycle_dayNumber_le
  have hEarlier := cycleYear_cast earlier.year
  have hLater := cycleYear_cast later.year
  by_cases hCycle :
      earlier.year / 400 < later.year / 400
  · unfold dayNumber
    omega
  · -- both lie in one cycle, in the same order there
    have hInCycle :
        earlier.inCycle.Before later.inCycle := by
      unfold Before at hBefore
      simp only [Calendar.Date.Before, inCycle]
      omega
    have hSame :
        earlier.year / 400 = later.year / 400 := by
      unfold Before at hBefore
      omega
    have hDays := Calendar.Date.dayNumber_lt hInCycle
    unfold dayNumber
    omega

theorem before_or_eq_or_after
    (first second : Date) :
    first.Before second ∨ first = second ∨
      second.Before first := by
  cases first
  cases second
  simp only [Before, Date.mk.injEq]
  omega

/- Different days have different numbers. -/
theorem dayNumber_injective :
    Function.Injective dayNumber := by
  intro first second hSame
  rcases before_or_eq_or_after first second with
    hBefore | hEq | hAfter
  · exact absurd hSame (ne_of_lt (dayNumber_lt hBefore))
  · exact hEq
  · exact absurd hSame.symm (ne_of_lt (dayNumber_lt hAfter))

end Date

end Civil

end Calendar

------------------------------------------------------------
-- Counting Days
------------------------------------------------------------

namespace Calendar

namespace Civil

/- Walking so many days from the first date, or back to it. -/
def DaysApart (first second : Date) : Int → Prop
| .ofNat count => Date.next^[count] first = second
| .negSucc count => Date.next^[count + 1] second = first

theorem dayNumber_iterate_next
    (count : Nat)
    (date : Date) :
    (Date.next^[count] date).dayNumber =
      date.dayNumber + count := by
  induction count with
  | zero => simp
  | succ count ih =>
      rw [Function.iterate_succ_apply', Date.dayNumber_next,
        ih]
      omega

/- A walk ends at the day whose number is so much higher. -/
theorem iterate_next_eq_iff
    (count : Nat)
    (first second : Date) :
    Date.next^[count] first = second ↔
      second.dayNumber = first.dayNumber + count := by
  rw [← dayNumber_iterate_next]
  constructor
  · intro hWalk
    rw [hWalk]
  · intro hNumber
    exact Date.dayNumber_injective hNumber.symm

/- Any two days are so many days apart, and no other number. -/
theorem daysApart_iff
    (first second : Date)
    (days : Int) :
    DaysApart first second days ↔
      second.dayNumber = first.dayNumber + days := by
  cases days with
  | ofNat count => exact iterate_next_eq_iff count first second
  | negSucc count =>
      have hWalk :=
        iterate_next_eq_iff (count + 1) second first
      refine hWalk.trans ?_
      omega

end Civil

end Calendar
