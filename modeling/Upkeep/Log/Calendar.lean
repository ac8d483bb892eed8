/-
Upkeep.Log.Calendar — the time of day and the date of a moment.

A moment is a number of seconds since the beginning of 1970. Years are
counted from a March, so that the day that some of them have more is the
last of the year; 146097 days are four hundred years. The calendar tells
moments of the years 1 to 9999, except the very first day
(`outOfCalendar?`).
-/
import Upkeep.Fault

namespace Upkeep.Log

/-! ## 1. Dates -/

/-- The number of seconds of a day. -/
def daySeconds : Int := 86400

/-- A date. -/
structure Date where
  year : Int
  month : Nat
  day : Nat
  deriving DecidableEq, Repr

/-- The date by the number of days since the beginning of 1970. -/
def Date.ofDays (days : Int) : Date :=
  let sinceMarch := (days + 719468).emod 146097 |>.toNat
  let year := (sinceMarch - sinceMarch / 1460 + sinceMarch / 36524 - sinceMarch / 146096) / 365
  let dayOfYear := sinceMarch - (365 * year + year / 4 - year / 100)
  let month := (5 * dayOfYear + 2) / 153
  let begun : Int := if month < 10 then 0 else 1
  { year := 400 * (days + 719468).ediv 146097 + year + begun
    month := if month < 10 then month + 3 else month - 9
    day := dayOfYear - (153 * month + 2) / 5 + 1 }

/-- The date of a moment. -/
def Date.ofSeconds (seconds : Int) : Date := Date.ofDays (seconds.ediv daySeconds)

/-! ## 2. The range of the calendar -/

/-- The last number that a signed word of 64 bits holds. -/
def lastLong : Int := 9223372036854775807

/-- The last number that a signed word of 32 bits holds. -/
def lastInt : Int := 2147483647

/-- The beginning of the year 1. -/
def firstSecond : Int := -62135596800

/-- Why the calendar does not tell a moment. The moment must fit 64 bits
and the years since 1900 must fit 32 bits, so a year is reported within
these; the day before is looked at too, so the first day is too early. -/
def outOfCalendar? (seconds : Int) : Option Fault :=
  if seconds < -lastLong - 1 || lastLong < seconds then
    some ⟨.overflow, "timestamp out of range for platform time_t"⟩
  else
    let year := (Date.ofSeconds seconds).year
    if year - 1900 < -lastInt - 1 || lastInt < year - 1900 then
      some (Fault.system (some 75) "Value too large for defined data type")
    else if year < 1 || 9999 < year then
      some ⟨.value, s!"year {year.bmod 4294967296} is out of range"⟩
    else if seconds < firstSecond + daySeconds then
      some ⟨.value, "year 0 is out of range"⟩
    else none

/-! ## 3. Stamps -/

/-- A number in at least `width` decimal digits. -/
def decimalPadded (width n : Nat) : String :=
  let digits := Nat.toDigits 10 n
  String.ofList (List.replicate (width - digits.length) '0' ++ digits)

/-- A number in at least `width` characters, zeros after its sign. -/
def signedPadded (width : Nat) (n : Int) : String :=
  if n < 0 then "-" ++ decimalPadded (width - 1) n.natAbs else decimalPadded width n.natAbs

/-- Time of day with milliseconds, then month and day. -/
def stamp (seconds milliseconds : Int) : String :=
  let ofDay := (seconds.emod daySeconds).toNat
  let date := Date.ofSeconds seconds
  decimalPadded 2 (ofDay / 3600) ++ ":" ++ decimalPadded 2 (ofDay / 60 % 60) ++ ":" ++
    decimalPadded 2 (ofDay % 60) ++ "." ++ signedPadded 3 milliseconds ++ " " ++
    decimalPadded 2 date.month ++ "/" ++ decimalPadded 2 date.day

end Upkeep.Log
