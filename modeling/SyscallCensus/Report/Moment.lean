/-!
# Moments

The time of a report, `generated_at` of `SPEC_FULL.md`, Section 10.8 (CLI), in the form of RFC 3339.

A moment is counted from the beginning of 1970 and written as a date and a time of day, both at the
meridian. The date is found in years that begin in March, so that the day that only some years have
comes last.
-/

namespace SyscallCensus

/-- A moment since the beginning of 1970. -/
structure Moment where
  /-- The nanoseconds since then. -/
  nanoseconds : Nat
  deriving DecidableEq, Repr

/-- A day of the calendar. -/
structure CalendarDay where
  /-- The year. -/
  year : Nat
  /-- The month, from 1. -/
  month : Nat
  /-- The day of the month, from 1. -/
  day : Nat
  deriving DecidableEq, Repr

/-- The day that many days after the first of January 1970. Four centuries have 146097 days. -/
def CalendarDay.ofDays (days : Nat) : CalendarDay :=
  let sinceMarch := days + 719468
  let dayOfEra := sinceMarch % 146097
  let yearOfEra := (dayOfEra - dayOfEra / 1460 + dayOfEra / 36524 - dayOfEra / 146096) / 365
  let dayOfYear := dayOfEra - (365 * yearOfEra + yearOfEra / 4 - yearOfEra / 100)
  let monthFromMarch := (5 * dayOfYear + 2) / 153
  let month := if monthFromMarch < 10 then monthFromMarch + 3 else monthFromMarch - 9
  let year := sinceMarch / 146097 * 400 + yearOfEra
  ⟨if month ≤ 2 then year + 1 else year, month, dayOfYear - (153 * monthFromMarch + 2) / 5 + 1⟩

/-- A number with zeros in front. -/
def zeroPadded (width n : Nat) : String :=
  let digits := toString n
  String.ofList (List.replicate (width - digits.length) '0') ++ digits

namespace Moment

/-- The part of a second: nothing, or as many groups of three digits as it needs. -/
def fraction (nanoseconds : Nat) : String :=
  if nanoseconds = 0 then ""
  else if nanoseconds % 1000000 = 0 then "." ++ zeroPadded 3 (nanoseconds / 1000000)
  else if nanoseconds % 1000 = 0 then "." ++ zeroPadded 6 (nanoseconds / 1000)
  else "." ++ zeroPadded 9 nanoseconds

/-- The wording of a moment. -/
def text (moment : Moment) : String :=
  let seconds := moment.nanoseconds / 1000000000
  let date := CalendarDay.ofDays (seconds / 86400)
  let time := seconds % 86400
  zeroPadded 4 date.year ++ "-" ++ zeroPadded 2 date.month ++ "-" ++ zeroPadded 2 date.day ++ "T" ++
    zeroPadded 2 (time / 3600) ++ ":" ++ zeroPadded 2 (time / 60 % 60) ++ ":" ++
      zeroPadded 2 (time % 60) ++
    fraction (moment.nanoseconds % 1000000000) ++ "+00:00"

end Moment

end SyscallCensus
