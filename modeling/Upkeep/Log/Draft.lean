/-
Upkeep.Log.Draft — a record from another source, before it is a line.

Its time is given by numbers that have to name a moment of the calendar,
and its message has fields that are filled with values. `Draft.line` makes
the line; the first fault that it meets is that of the moment, then that
of the milliseconds, then that of the message.
-/
import Upkeep.Log.Line
import Upkeep.Log.Template

namespace Upkeep.Log

open Upkeep.Decimal (Binary64 power)

/-- A record from another source. -/
structure Draft where
  /-- Seconds since the beginning of 1970. -/
  seconds : Json
  /-- Milliseconds, which the line shows by themselves. -/
  milliseconds : Json
  level : String
  source : String
  message : Json
  values : List Json := []
  trouble : Option String := none

namespace Draft

/-- A fraction in millionths, rounded to a double and then to a whole
number. -/
def millionths (numerator denominator : Nat) : Nat :=
  match Binary64.nearest false (numerator * 1000000) denominator with
  | .finite _ s e => Binary64.roundDiv (s * power 2 e) (power 2 (-e))
  | _ => 0

/-- Whole seconds of a number that is not whole, after its fraction was
rounded to millionths; `significand · 2 ^ exponent` is its magnitude. -/
def roundedSeconds (negative : Bool) (significand : Nat) (exponent : Int) : Int :=
  let scale := power 2 (-exponent)
  let scaled := significand * power 2 exponent
  let whole : Int := scaled / scale
  let rest := millionths (scaled % scale) scale
  if negative then if rest = 0 then -whole else -whole - 1
  else whole + rest / 1000000

/-- The seconds that a value says. -/
def secondsOf (written : Json) : Except Fault Int :=
  match written with
  | .bool b => .ok (if b then 1 else 0)
  | .number (.whole n) => .ok n
  | .number (.double .nan) => .error ⟨.value, "Invalid value NaN (not a number)"⟩
  | .number (.double (.infinite negative)) =>
    .ok (if negative then -lastLong - 2 else lastLong + 1)
  | .number (.double (.finite negative s e)) => .ok (roundedSeconds negative s e)
  | j => .error ⟨.wrongType, s!"'{j.kindWord}' object cannot be interpreted as an integer"⟩

/-- The moment that a value says, if the calendar tells it. -/
def momentOf (written : Json) : Except Fault Int := do
  let seconds ← secondsOf written
  match outOfCalendar? seconds with
  | none => return seconds
  | some fault => throw fault

/-- The line for a record. -/
def line (d : Draft) : Except Fault Line := do
  let seconds ← momentOf d.seconds
  let milliseconds ← Port.wholeNumber d.milliseconds
  let message ← Template.fill d.message.asText d.values
  return {
    seconds, milliseconds, message
    level := d.level, source := d.source, trouble := d.trouble }

end Draft

end Upkeep.Log
