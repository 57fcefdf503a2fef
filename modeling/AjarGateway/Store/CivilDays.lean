import AjarGateway.Calendar.Civil
import AjarGateway.Store.Timestamp

/-
  The day numbers of the calendar, and the Unix times that
  timestamps are read as.

  `daysFromCivilChecked` is `daysFromCivil` with each result
  of its `i32` arithmetic checked for overflow.

  Key definitions include:
    * `Store.daysFromCivilChecked`
    * `Store.epoch`
    * `Store.Timestamp.UnixTime`

  Key theorems include:
    * `Store.daysFromCivilChecked_eq`
    * `Store.daysFromCivil_date`
    * `Store.daysFromCivil_countsDays`
-/

------------------------------------------------------------
-- Arithmetic Without Overflow
------------------------------------------------------------

namespace AjarGateway

namespace Store

open Rust

/- `daysFromCivil`, unless an `i32` overflows on the way. -/
def daysFromCivilChecked
    (year month day : Int) : Option Int := do
  let adjustedYear ← i32 (year - if month ≤ 2 then 1 else 0)
  let eraStart ←
    i32 (if adjustedYear ≥ 0 then adjustedYear
      else adjustedYear - 399)
  let era ← i32 (eraStart.tdiv 400)
  let eraYears ← i32 (era * 400)
  let yearOfEra ← i32 (adjustedYear - eraYears)
  let monthPrime ← i32 (month + if month > 2 then -3 else 9)
  let scaled ← i32 (153 * monthPrime)
  let shifted ← i32 (scaled + 2)
  let monthDays ← i32 (shifted.tdiv 5)
  let monthAndDay ← i32 (monthDays + day)
  let dayOfYear ← i32 (monthAndDay - 1)
  let commonDays ← i32 (yearOfEra * 365)
  let quarters ← i32 (yearOfEra.tdiv 4)
  let julianDays ← i32 (commonDays + quarters)
  let centuries ← i32 (yearOfEra.tdiv 100)
  let yearDays ← i32 (julianDays - centuries)
  let dayOfEra ← i32 (yearDays + dayOfYear)
  let eraDays ← i32 (era * 146097)
  let days ← i32 (eraDays + dayOfEra)
  i32 (days - 719468)

/- The years within a bound, on both sides of year 0. -/
def InYears (bound year : Int) : Prop :=
  -bound ≤ year ∧ year ≤ bound

/- In these years no result overflows. -/
theorem daysFromCivilChecked_eq
    (year month day : Int)
    (hYear : InYears 5000001 year)
    (hMonth : 1 ≤ month ∧ month ≤ 12)
    (hDay : 1 ≤ day ∧ day ≤ 31) :
    daysFromCivilChecked year month day =
      some (daysFromCivil year month day) := by
  rcases hYear with ⟨hYearLow, hYearHigh⟩
  unfold daysFromCivilChecked daysFromCivil
  dsimp only
  -- a result becomes a variable once its bounds are known
  have hAdjusted :
      -5000002 ≤ year - (if month ≤ 2 then 1 else 0) ∧
        year - (if month ≤ 2 then 1 else 0) ≤ 5000001 := by
    split <;> omega
  generalize (year - if month ≤ 2 then 1 else 0) =
    adjustedYear at hAdjusted ⊢
  have hEraStart :
      -2147483648 ≤ (if adjustedYear ≥ 0 then adjustedYear
          else adjustedYear - 399) ∧
        (if adjustedYear ≥ 0 then adjustedYear
          else adjustedYear - 399) ≤ 2147483647 := by
    split <;> omega
  rw [i32_bind (by omega) (by omega),
    i32_bind hEraStart.1 hEraStart.2, era_eq]
  have hYearOfEra :
      0 ≤ adjustedYear - adjustedYear / 400 * 400 ∧
        adjustedYear - adjustedYear / 400 * 400 ≤ 399 := by
    omega
  have hEra :
      -12501 ≤ adjustedYear / 400 ∧
        adjustedYear / 400 ≤ 12500 := by
    omega
  generalize adjustedYear / 400 = era at hYearOfEra hEra ⊢
  have hMonthPrime :
      0 ≤ month + (if month > 2 then -3 else 9) ∧
        month + (if month > 2 then -3 else 9) ≤ 11 := by
    split <;> omega
  generalize (month + if month > 2 then -3 else 9) =
    monthPrime at hMonthPrime ⊢
  repeat rw [i32_bind (by omega) (by omega)]
  generalize adjustedYear - era * 400 =
    yearOfEra at hYearOfEra ⊢
  have hShifted : 0 ≤ 153 * monthPrime + 2 := by
    omega
  rw [Int.tdiv_eq_ediv_of_nonneg hShifted,
    Int.tdiv_eq_ediv_of_nonneg hYearOfEra.1,
    Int.tdiv_eq_ediv_of_nonneg hYearOfEra.1]
  repeat rw [i32_bind (by omega) (by omega)]
  exact i32_eq (by omega) (by omega)

end Store

end AjarGateway

------------------------------------------------------------
-- Day Numbers Of The Calendar
------------------------------------------------------------

namespace AjarGateway

namespace Store

open Calendar

/- Four hundred years have 146097 days. -/
theorem daysFromCivil_add_cycles
    (year month day cycles : Int)
    (hMonth : 1 ≤ month) :
    daysFromCivil (year + 400 * cycles) month day =
      daysFromCivil year month day + 146097 * cycles := by
  rw [daysFromCivil_floor _ month day hMonth _ rfl,
    daysFromCivil_floor _ month day hMonth _ rfl]
  generalize (if month ≤ 2 then (1 : Int) else 0) = early
  omega

/- The code numbers the days as the calendar does. -/
theorem daysFromCivil_date
    (date : Civil.Date) :
    daysFromCivil date.year date.month date.day =
      date.dayNumber - 719529 := by
  have hMonth : (1 : Int) ≤ date.month := by
    exact_mod_cast date.month_pos
  have hYear :
      date.year =
        Civil.cycleYear date.year + 400 * (date.year / 400) := by
    rw [Civil.cycleYear_cast]
    omega
  have hCycle :=
    daysFromCivil_eq (Civil.cycleYear date.year) date.month
      date.day date.month_pos date.month_le
  rw [hYear, daysFromCivil_add_cycles _ _ _ _ hMonth, hCycle]
  simp only [Civil.Date.dayNumber, Civil.Date.inCycle,
    Date.dayNumber]
  omega

/- The next day of the calendar has the next number. -/
theorem daysFromCivil_next
    (date : Civil.Date) :
    daysFromCivil date.next.year date.next.month
        date.next.day =
      daysFromCivil date.year date.month date.day + 1 := by
  rw [daysFromCivil_date, daysFromCivil_date,
    Civil.Date.dayNumber_next]
  omega

/- The day from which days and seconds are counted. -/
def epoch : Civil.Date :=
  .newYear 1970

theorem epoch_dayNumber : epoch.dayNumber = 719529 := by
  have hEpoch := daysFromCivil_date epoch
  have hZero :
      daysFromCivil epoch.year epoch.month epoch.day = 0 := by
    decide
  omega

/- The day number counts the days since the epoch. -/
theorem daysApart_epoch
    (date : Civil.Date) :
    Civil.DaysApart epoch date
      (daysFromCivil date.year date.month date.day) := by
  rw [Civil.daysApart_iff, daysFromCivil_date,
    epoch_dayNumber]
  omega

end Store

end AjarGateway

------------------------------------------------------------
-- Unix Times
------------------------------------------------------------

namespace AjarGateway

namespace Store

open Calendar

namespace Timestamp

/- The date of a timestamp whose day exists. -/
def civilDate
    (time : Timestamp)
    (hDay : time.DayExists) : Civil.Date where
  year := time.year
  month := time.month
  day := time.day
  month_pos := time.month_pos
  month_le := time.month_le
  day_pos := time.day_pos
  day_le := by
    rw [Civil.daysInMonth_natCast]
    exact hDay

/- The days since the epoch, and the seconds of the day. -/
def UnixTime
    (time : Timestamp)
    (hDay : time.DayExists)
    (seconds : Int) : Prop :=
  ∃ days,
    Civil.DaysApart epoch (time.civilDate hDay) days ∧
      seconds = days * 86400 + time.secondOfDay

theorem unixTime_seconds
    (time : Timestamp)
    (hDay : time.DayExists) :
    time.UnixTime hDay time.seconds :=
  ⟨_, daysApart_epoch (time.civilDate hDay), rfl⟩

/- Later timestamps are read as greater numbers. -/
theorem parsed_lt_iff
    {first second : Timestamp}
    (hFirst : first.DayExists)
    (hSecond : second.DayExists)
    {earlier later : Int}
    (hEarlier : parseRfc3339Utc first.text = .ok earlier)
    (hLater : parseRfc3339Utc second.text = .ok later) :
    earlier < later ↔ first.Before second := by
  rw [parseRfc3339Utc_text] at hEarlier hLater
  cases hEarlier
  cases hLater
  exact seconds_lt_iff first second hFirst hSecond

end Timestamp

/- Checked arithmetic on the days that exist. -/
theorem daysFromCivilChecked_date
    (date : Civil.Date)
    (hYear : InYears 5000001 date.year) :
    daysFromCivilChecked date.year date.month date.day =
      some (daysFromCivil date.year date.month date.day) := by
  have hMonthPos := date.month_pos
  have hMonthLe := date.month_le
  have hDayPos := date.day_pos
  have hDayLe :=
    le_trans date.day_le
      (Civil.daysInMonth_le date.year date.month)
  exact daysFromCivilChecked_eq _ _ _ hYear
    ⟨by omega, by omega⟩ ⟨by omega, by omega⟩

/-
  Without overflow in ten million years the day number of
  the next day is one more, from 0 on the epoch; timestamps
  are read as their Unix times, in the order of time.
-/
theorem daysFromCivil_countsDays :
    (∀ date : Civil.Date, InYears 5000000 date.year →
      daysFromCivilChecked date.year date.month date.day =
          some (daysFromCivil date.year date.month
            date.day) ∧
        daysFromCivilChecked date.next.year date.next.month
            date.next.day =
          some (daysFromCivil date.year date.month
            date.day + 1)) ∧
      daysFromCivil 1970 1 1 = 0 ∧
      (∀ (time : Timestamp) (hDay : time.DayExists),
        ∃ seconds,
          parseRfc3339Utc time.text = .ok seconds ∧
            time.UnixTime hDay seconds) ∧
      ∀ first second : Timestamp,
        first.DayExists → second.DayExists →
          ∀ earlier later,
            parseRfc3339Utc first.text = .ok earlier →
              parseRfc3339Utc second.text = .ok later →
                (earlier < later ↔ first.Before second) ∧
                  (earlier < later ↔
                    first.text < second.text) := by
  refine ⟨?_, by decide, ?_, ?_⟩
  · intro date hYear
    rcases hYear with ⟨hLow, hHigh⟩
    have hNext := date.next_year
    constructor
    · exact daysFromCivilChecked_date date
        ⟨by omega, by omega⟩
    · rw [← daysFromCivil_next]
      exact daysFromCivilChecked_date date.next
        ⟨by omega, by omega⟩
  · intro time hDay
    exact ⟨time.seconds, parseRfc3339Utc_text time,
      time.unixTime_seconds hDay⟩
  · intro first second hFirst hSecond earlier later hEarlier
      hLater
    have hOrder :=
      Timestamp.parsed_lt_iff hFirst hSecond hEarlier hLater
    exact ⟨hOrder,
      hOrder.trans (Timestamp.text_lt_iff first second).symm⟩

/- The leap day of a year before year 0. -/
def sampleLeapDay : Civil.Date where
  year := -4
  month := 2
  day := 29
  month_pos := by decide
  month_le := by decide
  day_pos := by decide
  day_le := by decide

theorem daysFromCivil_countsDays_sample :
    daysFromCivilChecked (-4) 2 29 =
        some (daysFromCivil (-4) 2 29) ∧
      daysFromCivilChecked (-4) 3 1 =
        some (daysFromCivil (-4) 2 29 + 1) :=
  daysFromCivil_countsDays.1 sampleLeapDay
    ⟨by decide, by decide⟩

end Store

end AjarGateway
