import AjarGateway.Calendar.Gregorian
import AjarGateway.Store.Time
import Mathlib.Data.List.Lex
import Mathlib.Tactic.Ring

/-
  The timestamps that `parseRfc3339Utc` accepts.

  A `Timestamp` holds the six numbers of a text of the form
  `YYYY-MM-DDTHH:MM:SSZ`, within the bounds that the parser
  checks.  A day from 1 to 31 need not exist in its month;
  the texts whose day exists are those of the calendar.

  Main declarations:
    * `Store.daysFromCivil_eq`
    * `Store.parseRfc3339Utc_ok_iff`
    * `Store.Timestamp.text_lt_iff`
    * `Store.parseRfc3339Utc_readsInOrder_iff`
-/

------------------------------------------------------------
-- Day Numbers
------------------------------------------------------------

namespace AjarGateway

namespace Store

open Calendar

/- The era of a year, as a quotient rounded down. -/
theorem era_eq
    (adjustedYear : Int) :
    (if adjustedYear ≥ 0 then adjustedYear
      else adjustedYear - 399).tdiv 400 = adjustedYear / 400 := by
  by_cases hNegative : adjustedYear ≥ 0
  · rw [if_pos hNegative, Int.tdiv_eq_ediv_of_nonneg hNegative]
  · have hOpposite :
        adjustedYear - 399 = -(399 - adjustedYear) := by
      omega
    rw [if_neg hNegative, hOpposite, Int.neg_tdiv,
      Int.tdiv_eq_ediv_of_nonneg (by omega)]
    omega

/- Days of the years before March, and from then on. -/
theorem daysFromCivil_floor
    (year month day : Int)
    (hMonth : 1 ≤ month)
    (adjustedYear : Int)
    (hAdjusted :
      adjustedYear = year - if month ≤ 2 then 1 else 0) :
    daysFromCivil year month day =
      365 * adjustedYear + adjustedYear / 4 -
          adjustedYear / 100 + adjustedYear / 400 +
        (153 * (month + if month > 2 then -3 else 9) + 2) / 5 +
        day - 719469 := by
  have hOfEra : 0 ≤ adjustedYear - adjustedYear / 400 * 400 := by
    omega
  have hMonthPrime :
      0 ≤ 153 * (month + if month > 2 then -3 else 9) + 2 := by
    split <;> omega
  have hFour :
      (adjustedYear - adjustedYear / 400 * 400) / 4 =
        adjustedYear / 4 - adjustedYear / 400 * 100 := by
    omega
  have hHundred :
      (adjustedYear - adjustedYear / 400 * 400) / 100 =
        adjustedYear / 100 - adjustedYear / 400 * 4 := by
    omega
  unfold daysFromCivil
  simp only [← hAdjusted, era_eq adjustedYear,
    Int.tdiv_eq_ediv_of_nonneg hOfEra,
    Int.tdiv_eq_ediv_of_nonneg hMonthPrime, hFour, hHundred]
  clear hFour hHundred
  generalize adjustedYear / 400 = era
  generalize adjustedYear / 100 = century
  generalize adjustedYear / 4 = quarter
  omega

/- The code's day number is the count of the calendar. -/
theorem daysFromCivil_eq
    (year month day : Nat)
    (hPos : 1 ≤ month)
    (hLe : month ≤ 12) :
    daysFromCivil year month day =
      daysBeforeYear year + daysBeforeMonth year month +
        day - 719529 := by
  have hYear := daysBeforeYear_eq year
  rw [daysFromCivil_floor year month day (by omega) _ rfl,
    daysBeforeMonth_eq year month hPos hLe]
  by_cases hEarly : month ≤ 2
  · have hInt : (month : Int) ≤ 2 := by omega
    rw [if_pos hEarly, if_pos hInt, if_neg (by omega)]
    omega
  · -- the year that begins in March is the year itself
    have hNext := daysBeforeYear_eq (year + 1)
    have hStep :
        daysBeforeYear (year + 1) =
          daysBeforeYear year + daysInYear year :=
      rfl
    rw [daysInYear_eq] at hStep
    simp only [Nat.cast_add, Nat.cast_one,
      add_sub_cancel_right] at hNext
    have hInt : ¬(month : Int) ≤ 2 := by omega
    rw [if_neg hEarly, if_neg hInt, if_pos (by omega),
      Int.sub_zero]
    generalize (year : Int) / 400 = era at *
    generalize (year : Int) / 100 = century at *
    generalize (year : Int) / 4 = quarter at *
    split at hStep <;> rename_i hLeap <;>
      simp only [hLeap, if_true, if_false,
        Bool.false_eq_true] <;> omega

end Store

end AjarGateway

------------------------------------------------------------
-- Digits
------------------------------------------------------------

namespace AjarGateway

namespace Store

/- A number below `10 ^ width` in that many digits. -/
def paddedDigits : Nat → Nat → List Char
| 0, _ => []
| width + 1, value =>
    Nat.digitChar (value / 10 ^ width) ::
      paddedDigits width (value % 10 ^ width)

/- The byte of an ASCII character. -/
def asciiByte (c : Char) : UInt8 :=
  UInt8.ofNat c.toNat

@[simp] theorem length_paddedDigits
    (width value : Nat) :
    (paddedDigits width value).length = width := by
  induction width generalizing value with
  | zero => rfl
  | succ width ih => simp [paddedDigits, ih]

theorem isAsciiDigit_digitChar :
    ∀ digit < 10,
      isAsciiDigit (asciiByte (Nat.digitChar digit)) = true ∧
        (asciiByte (Nat.digitChar digit) - 48).toNat = digit ∧
          (Nat.digitChar digit).toNat < 128 := by
  decide

theorem digitChar_lt_iff :
    ∀ first < 10, ∀ second < 10,
      (Nat.digitChar first < Nat.digitChar second ↔
          first < second) ∧
        (Nat.digitChar first = Nat.digitChar second ↔
          first = second) := by
  decide

/- A digit byte is the byte of its digit. -/
theorem asciiByte_digitChar
    (byte : UInt8)
    (hDigit : isAsciiDigit byte = true) :
    (byte - 48).toNat < 10 ∧
      asciiByte (Nat.digitChar (byte - 48).toNat) = byte := by
  have hBytes :
      ∀ n < 256,
        isAsciiDigit (UInt8.ofNat n) = true →
          (UInt8.ofNat n - 48).toNat < 10 ∧
            asciiByte (Nat.digitChar
                (UInt8.ofNat n - 48).toNat) =
              UInt8.ofNat n := by
    decide +kernel
  have hByte := hBytes byte.toNat byte.toNat_lt
  rw [UInt8.ofNat_toNat] at hByte
  exact hByte hDigit

/- The leading digit of a number. -/
theorem leadingDigit_lt
    {width value : Nat}
    (hBound : value < 10 ^ (width + 1)) :
    value / 10 ^ width < 10 := by
  apply Nat.div_lt_of_lt_mul
  rwa [← Nat.pow_succ]

theorem paddedDigits_ascii
    (width value : Nat)
    (hBound : value < 10 ^ width) :
    ∀ c ∈ paddedDigits width value, c.toNat < 128 := by
  induction width generalizing value with
  | zero => simp [paddedDigits]
  | succ width ih =>
      intro c hMem
      rcases List.mem_cons.mp hMem with hEq | hRest
      · rw [hEq]
        exact (isAsciiDigit_digitChar _
          (leadingDigit_lt hBound)).2.2
      · have hPower : 0 < 10 ^ width :=
          Nat.pow_pos (by decide)
        exact ih _ (Nat.mod_lt _ hPower) c hRest

theorem paddedDigits_cons
    (digit width value : Nat)
    (hBound : value < 10 ^ width) :
    paddedDigits (width + 1) (digit * 10 ^ width + value) =
      Nat.digitChar digit :: paddedDigits width value := by
  have hPower : 0 < 10 ^ width := Nat.pow_pos (by decide)
  have hDiv :
      (digit * 10 ^ width + value) / 10 ^ width = digit := by
    rw [Nat.add_comm, Nat.add_mul_div_right _ _ hPower,
      Nat.div_eq_of_lt hBound, Nat.zero_add]
  have hMod :
      (digit * 10 ^ width + value) % 10 ^ width = value := by
    rw [Nat.add_comm, Nat.add_mul_mod_self_right,
      Nat.mod_eq_of_lt hBound]
  rw [paddedDigits, hDiv, hMod]

end Store

end AjarGateway

------------------------------------------------------------
-- Parsed Digits
------------------------------------------------------------

namespace AjarGateway

namespace Store

/- One round of the loop of `parseDigits`. -/
def digitStep
    (value : Int)
    (byte : UInt8) : Except StoreLoadError Int :=
  if isAsciiDigit byte then
    .ok (value * 10 + (byte - 48).toNat)
  else
    .error .manifestTimeInvalid

theorem digitStep_ok_iff
    (value result : Int)
    (byte : UInt8) :
    digitStep value byte = .ok result ↔
      isAsciiDigit byte = true ∧
        result = value * 10 + (byte - 48).toNat := by
  unfold digitStep
  by_cases hDigit : isAsciiDigit byte = true
  · simp [hDigit, eq_comm]
  · simp [hDigit]

/-
  The loop succeeds on the digits of a number and appends
  them to the value it began with.
-/
theorem foldlM_digitStep_ok_iff
    (bytes : List UInt8)
    (start result : Int) :
    bytes.foldlM digitStep start = .ok result ↔
      ∃ value < 10 ^ bytes.length,
        bytes =
            (paddedDigits bytes.length value).map asciiByte ∧
          result = start * 10 ^ bytes.length + value := by
  induction bytes generalizing start with
  | nil =>
      simp [paddedDigits, pure, Except.pure, eq_comm]
  | cons byte rest ih =>
      rw [List.foldlM_cons, Rust.bind_eq_ok_iff]
      simp only [digitStep_ok_iff, ih]
      constructor
      · rintro ⟨_, ⟨hDigit, rfl⟩, value, hBound, hRest, rfl⟩
        have hByte := asciiByte_digitChar byte hDigit
        have hScaled :
            (byte - 48).toNat * 10 ^ rest.length ≤
              9 * 10 ^ rest.length :=
          Nat.mul_le_mul_right _ (Nat.le_of_lt_succ hByte.1)
        refine ⟨(byte - 48).toNat * 10 ^ rest.length + value,
          ?_, ?_, ?_⟩
        · rw [List.length_cons, Nat.pow_succ]
          omega
        · rw [List.length_cons, paddedDigits_cons _ _ _ hBound,
            List.map_cons, hByte.2, ← hRest]
        · rw [List.length_cons]
          push_cast
          ring
      · rintro ⟨value, hBound, hBytes, rfl⟩
        rw [List.length_cons, paddedDigits,
          List.map_cons] at hBytes
        injection hBytes with hByte hRest
        have hDigit :=
          isAsciiDigit_digitChar _ (leadingDigit_lt hBound)
        rw [← hByte] at hDigit
        have hPower : 0 < 10 ^ rest.length :=
          Nat.pow_pos (by decide)
        refine ⟨_, ⟨hDigit.1, rfl⟩,
          value % 10 ^ rest.length, Nat.mod_lt _ hPower,
          hRest, ?_⟩
        have hSplit :
            (10 : Int) ^ rest.length *
                  (value / 10 ^ rest.length : Nat) +
                (value % 10 ^ rest.length : Nat) =
              value := by
          exact_mod_cast Nat.div_add_mod value _
        rw [hDigit.2.1, List.length_cons, ← hSplit]
        ring

theorem parseDigits_ok_iff
    (bytes : List UInt8)
    (result : Int) :
    parseDigits bytes = .ok result ↔
      ∃ value < 10 ^ bytes.length,
        bytes =
            (paddedDigits bytes.length value).map asciiByte ∧
          result = value := by
  have hLoop := foldlM_digitStep_ok_iff bytes 0 result
  simp only [Int.zero_mul, Int.zero_add] at hLoop
  exact hLoop

end Store

end AjarGateway

------------------------------------------------------------
-- Timestamps
------------------------------------------------------------

namespace AjarGateway

namespace Store

/- Six numbers within the bounds of the parser. -/
structure Timestamp where
  year : Nat
  month : Nat
  day : Nat
  hour : Nat
  minute : Nat
  second : Nat
  year_le : year ≤ 9999
  month_pos : 1 ≤ month
  month_le : month ≤ 12
  day_pos : 1 ≤ day
  day_le : day ≤ 31
  hour_le : hour ≤ 23
  minute_le : minute ≤ 59
  second_le : second ≤ 59

namespace Timestamp

/- `YYYY-MM-DDTHH:MM:SSZ`. -/
def chars (time : Timestamp) : List Char :=
  paddedDigits 4 time.year ++ '-' ::
    (paddedDigits 2 time.month ++ '-' ::
      (paddedDigits 2 time.day ++ 'T' ::
        (paddedDigits 2 time.hour ++ ':' ::
          (paddedDigits 2 time.minute ++ ':' ::
            (paddedDigits 2 time.second ++ ['Z'])))))

def text (time : Timestamp) : String :=
  String.ofList time.chars

/- The day exists in its month. -/
def DayExists (time : Timestamp) : Prop :=
  time.day ≤ Calendar.daysInMonth time.year time.month

/- The date of a timestamp whose day exists. -/
def date
    (time : Timestamp)
    (hDay : time.DayExists) : Calendar.Date where
  year := time.year
  month := time.month
  day := time.day
  month_pos := time.month_pos
  month_le := time.month_le
  day_pos := time.day_pos
  day_le := hDay

/- Seconds since midnight. -/
def secondOfDay (time : Timestamp) : Nat :=
  time.hour * 3600 + time.minute * 60 + time.second

/- The number that the code returns. -/
def seconds (time : Timestamp) : Int :=
  daysFromCivil time.year time.month time.day * 86400 +
    time.secondOfDay

theorem secondOfDay_lt
    (time : Timestamp) :
    time.secondOfDay < 86400 := by
  have hHour := time.hour_le
  have hMinute := time.minute_le
  have hSecond := time.second_le
  unfold secondOfDay
  omega

/- The order of the day, then of the time within the day. -/
def Before (first second : Timestamp) : Prop :=
  first.year < second.year ∨
    (first.year = second.year ∧
      (first.month < second.month ∨
        (first.month = second.month ∧
          (first.day < second.day ∨
            (first.day = second.day ∧
              first.secondOfDay < second.secondOfDay)))))

/- Each number fits the width it is written in. -/
theorem fits
    (time : Timestamp) :
    time.year < 10 ^ 4 ∧ time.month < 10 ^ 2 ∧
      time.day < 10 ^ 2 ∧ time.hour < 10 ^ 2 ∧
        time.minute < 10 ^ 2 ∧ time.second < 10 ^ 2 := by
  cases time
  refine ⟨?_, ?_, ?_, ?_, ?_, ?_⟩ <;> dsimp only <;> omega

theorem chars_ascii
    (time : Timestamp) :
    ∀ c ∈ time.chars, c.toNat < 128 := by
  rcases time.fits with
    ⟨hYear, hMonth, hDay, hHour, hMinute, hSecond⟩
  unfold chars
  simp only [List.forall_mem_append, List.forall_mem_cons]
  refine ⟨paddedDigits_ascii _ _ hYear, by decide,
    paddedDigits_ascii _ _ hMonth, by decide,
    paddedDigits_ascii _ _ hDay, by decide,
    paddedDigits_ascii _ _ hHour, by decide,
    paddedDigits_ascii _ _ hMinute, by decide,
    paddedDigits_ascii _ _ hSecond, by decide, ?_⟩
  simp

theorem utf8_text
    (time : Timestamp) :
    Rust.utf8 time.text = time.chars.map asciiByte :=
  Rust.utf8_ofList_ascii _ time.chars_ascii

end Timestamp

end Store

end AjarGateway

------------------------------------------------------------
-- The Order Of Texts
------------------------------------------------------------

namespace AjarGateway

namespace Store

/- Numbers are ordered by quotient, then by remainder. -/
theorem quotient_remainder_order
    {period : Nat}
    (hPeriod : 0 < period)
    (first second : Nat)
    (later : Prop) :
    (first / period < second / period ∨
        (first / period = second / period ∧
          (first % period < second % period ∨
            (first % period = second % period ∧ later)))) ↔
      first < second ∨ (first = second ∧ later) := by
  have hFirst := Nat.div_add_mod first period
  have hSecond := Nat.div_add_mod second period
  have hModFirst := Nat.mod_lt first hPeriod
  have hModSecond := Nat.mod_lt second hPeriod
  rcases Nat.lt_trichotomy (first / period)
      (second / period) with hLess | hEq | hGreater
  · have hStep :=
      Nat.mul_le_mul_left period (Nat.succ_le_of_lt hLess)
    rw [Nat.mul_succ] at hStep
    omega
  · rw [hEq] at hFirst
    have hLess :
        first < second ↔ first % period < second % period := by
      omega
    have hSame :
        first = second ↔ first % period = second % period := by
      omega
    simp [hEq, hLess, hSame]
  · have hStep :=
      Nat.mul_le_mul_left period (Nat.succ_le_of_lt hGreater)
    rw [Nat.mul_succ] at hStep
    omega

theorem cons_lt_cons_same
    (c : Char)
    (rest others : List Char) :
    c :: rest < c :: others ↔ rest < others := by
  simp

/- Digits of one width are ordered as the numbers are. -/
theorem paddedDigits_append_lt_iff
    (width first second : Nat)
    (hFirst : first < 10 ^ width)
    (hSecond : second < 10 ^ width)
    (rest others : List Char) :
    paddedDigits width first ++ rest <
        paddedDigits width second ++ others ↔
      first < second ∨ (first = second ∧ rest < others) := by
  induction width generalizing first second with
  | zero =>
      have hZero : first = 0 ∧ second = 0 := by
        rw [Nat.pow_zero] at hFirst hSecond
        omega
      simp [paddedDigits, hZero.1, hZero.2]
  | succ width ih =>
      have hPower : 0 < 10 ^ width := Nat.pow_pos (by decide)
      have hDigits :=
        digitChar_lt_iff _ (leadingDigit_lt hFirst) _
          (leadingDigit_lt hSecond)
      have hRest :=
        ih _ _ (Nat.mod_lt first hPower)
          (Nat.mod_lt second hPower)
      rw [paddedDigits, paddedDigits, List.cons_append,
        List.cons_append, List.cons_lt_cons_iff, hDigits.1,
        hDigits.2, hRest]
      exact quotient_remainder_order hPower first second _

namespace Timestamp

/- Texts are ordered as the numbers they write. -/
theorem text_lt_iff
    (first second : Timestamp) :
    first.text < second.text ↔ first.Before second := by
  rcases first.fits with
    ⟨hYear, hMonth, hDay, hHour, hMinute, hSecond⟩
  rcases second.fits with
    ⟨hYear', hMonth', hDay', hHour', hMinute', hSecond'⟩
  rw [String.lt_iff]
  simp only [text, String.toList_ofList, chars,
    paddedDigits_append_lt_iff _ _ _ hYear hYear',
    paddedDigits_append_lt_iff _ _ _ hMonth hMonth',
    paddedDigits_append_lt_iff _ _ _ hDay hDay',
    paddedDigits_append_lt_iff _ _ _ hHour hHour',
    paddedDigits_append_lt_iff _ _ _ hMinute hMinute',
    paddedDigits_append_lt_iff _ _ _ hSecond hSecond',
    cons_lt_cons_same, List.lt_irrefl, and_false, or_false,
    Before, secondOfDay]
  have hBounds := first.minute_le
  have hBounds' := second.minute_le
  have hSeconds := first.second_le
  have hSeconds' := second.second_le
  omega

end Timestamp

end Store

end AjarGateway

------------------------------------------------------------
-- Accepted Texts
------------------------------------------------------------

namespace AjarGateway

namespace Store

theorem require_ok_iff
    (value : Option UInt8)
    (expected : UInt8)
    (done : Unit) :
    require value expected = .ok done ↔
      value = some expected := by
  unfold require
  by_cases hEq : value = some expected
  · simp [hEq]
  · simp [hEq]

/- What the parser reads, in its order. -/
theorem parseRfc3339Utc_ok_steps
    (value : String)
    (seconds : Int) :
    let bytes := Rust.utf8 value
    parseRfc3339Utc value = .ok seconds ↔
      (bytes.length = 20 ∧ value.toList.getLast? = some 'Z') ∧
        ∃ year,
          parseDigits (slice bytes 0 4) = .ok year ∧
          bytes[4]? = some 45 ∧
        ∃ month,
          parseDigits (slice bytes 5 7) = .ok month ∧
          bytes[7]? = some 45 ∧
        ∃ day,
          parseDigits (slice bytes 8 10) = .ok day ∧
          bytes[10]? = some 84 ∧
        ∃ hour,
          parseDigits (slice bytes 11 13) = .ok hour ∧
          bytes[13]? = some 58 ∧
        ∃ minute,
          parseDigits (slice bytes 14 16) = .ok minute ∧
          bytes[16]? = some 58 ∧
        ∃ second,
          parseDigits (slice bytes 17 19) = .ok second ∧
          ((1 ≤ month ∧ month ≤ 12) ∧ (1 ≤ day ∧ day ≤ 31) ∧
            (0 ≤ hour ∧ hour ≤ 23) ∧
              (0 ≤ minute ∧ minute ≤ 59) ∧
                (0 ≤ second ∧ second ≤ 59)) ∧
          daysFromCivil year month day * 86400 +
              hour * 3600 + minute * 60 + second =
            seconds := by
  intro bytes
  unfold parseRfc3339Utc
  simp only [Rust.throw_bind, Rust.guard_eq_ok_iff,
    Rust.bind_eq_ok_iff, require_ok_iff, pure, Except.pure,
    Except.ok.injEq, exists_const, not_or, not_not, ne_eq,
    bytes]

/- The slices of a byte string, put together again. -/
theorem slice_append_drop
    (bytes : List UInt8)
    (start stop : Nat)
    (hOrder : start ≤ stop) :
    slice bytes start stop ++ bytes.drop stop =
      bytes.drop start := by
  have hStop : stop = start + (stop - start) := by omega
  unfold slice
  nth_rewrite 2 [hStop]
  rw [← List.drop_drop, List.take_append_drop]

theorem drop_of_getElem?
    {bytes : List UInt8}
    {index : Nat}
    {byte : UInt8}
    (hByte : bytes[index]? = some byte) :
    bytes.drop index = byte :: bytes.drop (index + 1) := by
  rcases List.getElem?_eq_some_iff.mp hByte with
    ⟨hIndex, hEq⟩
  rw [List.drop_eq_getElem_cons hIndex, hEq]

/- The last byte of a text that ends with an ASCII letter. -/
theorem getElem?_utf8_last
    {value : String}
    (hLength : (Rust.utf8 value).length = 20)
    (hLast : value.toList.getLast? = some 'Z') :
    (Rust.utf8 value)[19]? = some 90 := by
  rcases List.getLast?_eq_some_iff.mp hLast with
    ⟨front, hFront⟩
  have hBytes :
      Rust.utf8 value =
        front.flatMap String.utf8EncodeChar ++ [90] := by
    unfold Rust.utf8
    rw [hFront, List.flatMap_append]
    rfl
  rw [hBytes, List.length_append, List.length_singleton] at hLength
  have hIndex :
      (front.flatMap String.utf8EncodeChar).length = 19 := by
    omega
  rw [hBytes, ← hIndex]
  exact List.getElem?_concat_length

/- Twenty bytes are the blocks between the separators. -/
theorem eq_blocks
    {bytes : List UInt8}
    (hLength : bytes.length = 20)
    (hYear : bytes[4]? = some 45)
    (hMonth : bytes[7]? = some 45)
    (hDay : bytes[10]? = some 84)
    (hHour : bytes[13]? = some 58)
    (hMinute : bytes[16]? = some 58)
    (hSecond : bytes[19]? = some 90) :
    bytes =
      slice bytes 0 4 ++ 45 :: (slice bytes 5 7 ++ 45 ::
        (slice bytes 8 10 ++ 84 :: (slice bytes 11 13 ++ 58 ::
          (slice bytes 14 16 ++ 58 ::
            (slice bytes 17 19 ++ [90]))))) := by
  have hEnd : bytes.drop 20 = [] :=
    List.drop_eq_nil_of_le (Nat.le_of_eq hLength)
  rw [← hEnd, ← drop_of_getElem? hSecond,
    slice_append_drop bytes 17 19 (by omega),
    ← drop_of_getElem? hMinute,
    slice_append_drop bytes 14 16 (by omega),
    ← drop_of_getElem? hHour,
    slice_append_drop bytes 11 13 (by omega),
    ← drop_of_getElem? hDay,
    slice_append_drop bytes 8 10 (by omega),
    ← drop_of_getElem? hMonth,
    slice_append_drop bytes 5 7 (by omega),
    ← drop_of_getElem? hYear,
    slice_append_drop bytes 0 4 (by omega)]
  rfl

end Store

end AjarGateway

------------------------------------------------------------
-- The Parser And The Calendar
------------------------------------------------------------

namespace AjarGateway

namespace Store

theorem parseDigits_paddedDigits
    (width value : Nat)
    (hBound : value < 10 ^ width) :
    parseDigits ((paddedDigits width value).map asciiByte) =
      .ok value := by
  rw [parseDigits_ok_iff]
  refine ⟨value, ?_, ?_, rfl⟩
  · rwa [List.length_map, length_paddedDigits]
  · rw [List.length_map, length_paddedDigits]

/- Every timestamp in form and bounds is accepted. -/
theorem parseRfc3339Utc_text
    (time : Timestamp) :
    parseRfc3339Utc time.text = .ok time.seconds := by
  rcases time.fits with
    ⟨hYear, hMonth, hDay, hHour, hMinute, hSecond⟩
  apply (parseRfc3339Utc_ok_steps _ _).mpr
  rw [time.utf8_text]
  refine ⟨⟨?_, ?_⟩,
    time.year, parseDigits_paddedDigits 4 _ hYear, rfl,
    time.month, parseDigits_paddedDigits 2 _ hMonth, rfl,
    time.day, parseDigits_paddedDigits 2 _ hDay, rfl,
    time.hour, parseDigits_paddedDigits 2 _ hHour, rfl,
    time.minute, parseDigits_paddedDigits 2 _ hMinute, rfl,
    time.second, parseDigits_paddedDigits 2 _ hSecond,
    ?_, ?_⟩
  · rfl
  · rw [Timestamp.text, String.toList_ofList]
    rfl
  · cases time
    dsimp only
    omega
  · unfold Timestamp.seconds Timestamp.secondOfDay
    push_cast
    omega

/- Whatever is accepted is a timestamp in form and bounds. -/
theorem timestamp_of_parseRfc3339Utc
    {value : String}
    {seconds : Int}
    (hParsed : parseRfc3339Utc value = .ok seconds) :
    ∃ time : Timestamp, value = time.text := by
  rcases (parseRfc3339Utc_ok_steps _ _).mp hParsed with
    ⟨⟨hLength, hLast⟩,
      _, hYear, hYearEnd, _, hMonth, hMonthEnd,
      _, hDay, hDayEnd, _, hHour, hHourEnd,
      _, hMinute, hMinuteEnd, _, hSecond, hBounds, -⟩
  have hBlocks :=
    eq_blocks hLength hYearEnd hMonthEnd hDayEnd hHourEnd
      hMinuteEnd (getElem?_utf8_last hLength hLast)
  have hWidth : ∀ start stop, stop ≤ 20 →
      (slice (Rust.utf8 value) start stop).length =
        stop - start := by
    intro start stop hStop
    unfold slice
    rw [List.length_take, List.length_drop, hLength]
    omega
  rw [parseDigits_ok_iff, hWidth _ _ (by omega)]
    at hYear hMonth hDay hHour hMinute hSecond
  rcases hYear with ⟨year, hYearBound, hYear, rfl⟩
  rcases hMonth with ⟨month, -, hMonth, rfl⟩
  rcases hDay with ⟨day, -, hDay, rfl⟩
  rcases hHour with ⟨hour, -, hHour, rfl⟩
  rcases hMinute with ⟨minute, -, hMinute, rfl⟩
  rcases hSecond with ⟨second, -, hSecond, rfl⟩
  let time : Timestamp :=
    { year, month, day, hour, minute, second
      year_le := by omega
      month_pos := by omega
      month_le := by omega
      day_pos := by omega
      day_le := by omega
      hour_le := by omega
      minute_le := by omega
      second_le := by omega }
  refine ⟨time, Rust.utf8_injective ?_⟩
  rw [hBlocks, hYear, hMonth, hDay, hHour, hMinute, hSecond,
    time.utf8_text]
  rfl

/- Exactly the timestamps in form and bounds are accepted. -/
theorem parseRfc3339Utc_ok_iff
    (value : String)
    (seconds : Int) :
    parseRfc3339Utc value = .ok seconds ↔
      ∃ time : Timestamp,
        value = time.text ∧ seconds = time.seconds := by
  constructor
  · intro hParsed
    rcases timestamp_of_parseRfc3339Utc hParsed with
      ⟨time, rfl⟩
    rw [parseRfc3339Utc_text] at hParsed
    exact ⟨time, rfl, (Except.ok.inj hParsed).symm⟩
  · rintro ⟨time, rfl, rfl⟩
    exact parseRfc3339Utc_text time

end Store

end AjarGateway

------------------------------------------------------------
-- Instants
------------------------------------------------------------

namespace AjarGateway

namespace Store

namespace Timestamp

/- The returned number counts from 1970-01-01. -/
theorem seconds_eq
    (time : Timestamp)
    (hDay : time.DayExists) :
    time.seconds =
      ((time.date hDay).dayNumber - 719529) * 86400 +
        time.secondOfDay := by
  unfold seconds
  rw [daysFromCivil_eq _ _ _ time.month_pos time.month_le]
  unfold Calendar.Date.dayNumber date
  push_cast
  rfl

/- On days that exist the numbers follow the texts. -/
theorem seconds_lt_iff
    (first second : Timestamp)
    (hFirst : first.DayExists)
    (hSecond : second.DayExists) :
    first.seconds < second.seconds ↔ first.Before second := by
  have hTime := first.secondOfDay_lt
  have hTime' := second.secondOfDay_lt
  rw [first.seconds_eq hFirst, second.seconds_eq hSecond]
  rcases Calendar.Date.before_or_eq_or_after
      (first.date hFirst) (second.date hSecond) with
    hBefore | hSame | hAfter
  · have hDays := Calendar.Date.dayNumber_lt hBefore
    simp only [Calendar.Date.Before, date] at hBefore
    unfold Before
    omega
  · have hYear : first.year = second.year :=
      congrArg Calendar.Date.year hSame
    have hMonth : first.month = second.month :=
      congrArg Calendar.Date.month hSame
    have hDay : first.day = second.day :=
      congrArg Calendar.Date.day hSame
    rw [hSame]
    unfold Before
    omega
  · have hDays := Calendar.Date.dayNumber_lt hAfter
    simp only [Calendar.Date.Before, date] at hAfter
    unfold Before
    omega

/- A text determines the day that it names. -/
theorem day_eq_of_text_eq
    {first second : Timestamp}
    (hText : first.text = second.text) :
    first.year = second.year ∧ first.month = second.month ∧
      first.day = second.day := by
  have hLess : ¬first.Before second := by
    rw [← text_lt_iff, hText]
    exact String.lt_irrefl _
  have hGreater : ¬second.Before first := by
    rw [← text_lt_iff, hText]
    exact String.lt_irrefl _
  unfold Before at hLess hGreater
  omega

theorem dayExists_of_text_eq
    {first second : Timestamp}
    (hText : first.text = second.text)
    (hFirst : first.DayExists) :
    second.DayExists := by
  rcases day_eq_of_text_eq hText with ⟨hYear, hMonth, hDay⟩
  unfold DayExists at hFirst ⊢
  rwa [← hYear, ← hMonth, ← hDay]

end Timestamp

/- A text of the form that names a day of the calendar. -/
def NamesTimestamp (value : String) : Prop :=
  ∃ time : Timestamp, value = time.text ∧ time.DayExists

/- A text of the form whose day is not in its month. -/
def NamesMissingDay (value : String) : Prop :=
  ∃ time : Timestamp, value = time.text ∧ ¬time.DayExists

/-
  Two strings are accepted exactly when they name instants,
  and then they are ordered as the instants are.
-/
def ReadsInOrder (first second : String) : Prop :=
  ((∃ seconds, parseRfc3339Utc first = .ok seconds) ↔
      NamesTimestamp first) ∧
    ((∃ seconds, parseRfc3339Utc second = .ok seconds) ↔
      NamesTimestamp second) ∧
    ∀ earlier later,
      parseRfc3339Utc first = .ok earlier →
        parseRfc3339Utc second = .ok later →
          (earlier = later → first = second) ∧
            (first < second ↔ earlier < later)

/- A string is judged rightly unless its day is missing. -/
theorem accepts_namesTimestamp_iff
    (value : String) :
    ((∃ seconds, parseRfc3339Utc value = .ok seconds) ↔
        NamesTimestamp value) ↔
      ¬NamesMissingDay value := by
  simp only [parseRfc3339Utc_ok_iff]
  constructor
  · rintro hAccepts ⟨time, hText, hMissing⟩
    rcases hAccepts.mp ⟨_, time, hText, rfl⟩ with
      ⟨other, hOther, hExists⟩
    exact hMissing (Timestamp.dayExists_of_text_eq
      (hOther.symm.trans hText) hExists)
  · intro hNone
    constructor
    · rintro ⟨_, time, hText, -⟩
      by_cases hExists : time.DayExists
      · exact ⟨time, hText, hExists⟩
      · exact absurd ⟨time, hText, hExists⟩ hNone
    · rintro ⟨time, hText, -⟩
      exact ⟨_, time, hText, rfl⟩

/-
  Two strings are read as the calendar orders them exactly
  when neither names a day that its month does not have.
-/
theorem parseRfc3339Utc_readsInOrder_iff
    (first second : String) :
    ReadsInOrder first second ↔
      ¬NamesMissingDay first ∧ ¬NamesMissingDay second := by
  unfold ReadsInOrder
  rw [accepts_namesTimestamp_iff, accepts_namesTimestamp_iff]
  constructor
  · rintro ⟨hFirst, hSecond, -⟩
    exact ⟨hFirst, hSecond⟩
  · rintro ⟨hFirst, hSecond⟩
    refine ⟨hFirst, hSecond, ?_⟩
    intro earlier later hEarlier hLater
    rcases (parseRfc3339Utc_ok_iff _ _).mp hEarlier with
      ⟨time, hText, rfl⟩
    rcases (parseRfc3339Utc_ok_iff _ _).mp hLater with
      ⟨time', hText', rfl⟩
    have hExists : time.DayExists :=
      not_not.mp (fun hMissing =>
        hFirst ⟨time, hText, hMissing⟩)
    have hExists' : time'.DayExists :=
      not_not.mp (fun hMissing =>
        hSecond ⟨time', hText', hMissing⟩)
    have hOrder := Timestamp.seconds_lt_iff _ _ hExists hExists'
    have hReverse :=
      Timestamp.seconds_lt_iff _ _ hExists' hExists
    rw [hText, hText']
    refine ⟨fun hSame => ?_, ?_⟩
    · have hNotBefore : ¬time.text < time'.text := by
        rw [Timestamp.text_lt_iff, ← hOrder]
        omega
      have hNotAfter : ¬time'.text < time.text := by
        rw [Timestamp.text_lt_iff, ← hReverse]
        omega
      exact String.le_antisymm hNotAfter hNotBefore
    · rw [Timestamp.text_lt_iff, hOrder]

/- The thirtieth of February is the second of March. -/
theorem parseRfc3339Utc_february_thirtieth :
    ¬∀ first second, ReadsInOrder first second := by
  intro hAll
  have hInOrder :=
    hAll "2026-02-30T00:00:00Z" "2026-03-02T00:00:00Z"
  have hFirst :
      parseRfc3339Utc "2026-02-30T00:00:00Z" =
        .ok 1772409600 := by
    decide
  have hSecond :
      parseRfc3339Utc "2026-03-02T00:00:00Z" =
        .ok 1772409600 := by
    decide
  have hSame := (hInOrder.2.2 _ _ hFirst hSecond).1 rfl
  exact absurd hSame (by decide)

end Store

end AjarGateway
