import AjarGateway.Store.Backend

/-
  Timestamps of a manifest.

  `parseRfc3339Utc` reads the one accepted form,
  `YYYY-MM-DDTHH:MM:SSZ`, from the bytes of a string.  The
  32-bit and 64-bit integers of the source are `Int`, and
  its truncating division is `Int.tdiv`.

  Main declarations:
    * `Store.daysFromCivil`
    * `Store.parseRfc3339Utc`
-/

------------------------------------------------------------
-- Calendar Days
------------------------------------------------------------

namespace AjarGateway

namespace Store

/- Days from 1970-01-01 to a civil date. -/
def daysFromCivil (year month day : Int) : Int :=
  let adjustedYear := year - if month ≤ 2 then 1 else 0
  let era :=
    (if adjustedYear ≥ 0 then adjustedYear
      else adjustedYear - 399).tdiv 400
  let yearOfEra := adjustedYear - era * 400
  let monthPrime := month + if month > 2 then -3 else 9
  let dayOfYear := (153 * monthPrime + 2).tdiv 5 + day - 1
  let dayOfEra :=
    yearOfEra * 365 + yearOfEra.tdiv 4 -
      yearOfEra.tdiv 100 + dayOfYear
  era * 146097 + dayOfEra - 719468

end Store

end AjarGateway

------------------------------------------------------------
-- Timestamps
------------------------------------------------------------

namespace AjarGateway

namespace Store

/- `u8::is_ascii_digit`. -/
def isAsciiDigit (byte : UInt8) : Bool :=
  48 ≤ byte && byte ≤ 57

def parseDigits
    (bytes : List UInt8) : Except StoreLoadError Int :=
  bytes.foldlM
    (fun value byte =>
      if isAsciiDigit byte then
        .ok (value * 10 + (byte - 48).toNat)
      else
        .error .manifestTimeInvalid)
    0

def require
    (value : Option UInt8)
    (expected : UInt8) : Except StoreLoadError Unit :=
  if value = some expected then .ok ()
  else .error .manifestTimeInvalid

/- The half-open slice of a byte string. -/
def slice
    (bytes : List UInt8)
    (start stop : Nat) : List UInt8 :=
  (bytes.drop start).take (stop - start)

def parseRfc3339Utc
    (value : String) : Except StoreLoadError Int := do
  let bytes := Rust.utf8 value
  if bytes.length ≠ 20 ∨ value.toList.getLast? ≠ some 'Z' then
    throw .manifestTimeInvalid
  let year ← parseDigits (slice bytes 0 4)
  require bytes[4]? 45
  let month ← parseDigits (slice bytes 5 7)
  require bytes[7]? 45
  let day ← parseDigits (slice bytes 8 10)
  require bytes[10]? 84
  let hour ← parseDigits (slice bytes 11 13)
  require bytes[13]? 58
  let minute ← parseDigits (slice bytes 14 16)
  require bytes[16]? 58
  let second ← parseDigits (slice bytes 17 19)
  if ¬(1 ≤ month ∧ month ≤ 12) ∨
      ¬(1 ≤ day ∧ day ≤ 31) ∨
      ¬(0 ≤ hour ∧ hour ≤ 23) ∨
      ¬(0 ≤ minute ∧ minute ≤ 59) ∨
      ¬(0 ≤ second ∧ second ≤ 59) then
    throw .manifestTimeInvalid
  return daysFromCivil year month day * 86400 +
    hour * 3600 + minute * 60 + second

example :
    (parseRfc3339Utc "2026-07-02T00:00:00Z").toOption =
      some 1782950400 := by
  decide

end Store

end AjarGateway
