/-
Upkeep.Port — ports of remote hosts.

A port may be written as any JSON value that a whole number can be made
of: a number loses its fraction, a text is read, a truth value is zero or
one. Nothing, or an empty text, means the default port.
-/
import Upkeep.Decimal.Reading
import Upkeep.Failure

namespace Upkeep.Port

/-- The port when none is given. -/
def default : Int := 22

/-- The whole number that a value is taken as. -/
def wholeNumber (written : Json) : Except Fault Int :=
  match written with
  | .bool b => .ok (if b then 1 else 0)
  | .number (.whole n) => .ok n
  | .number (.double x) =>
    match x.whole with
    | .ok n => .ok n
    | .error .notANumber => .error ⟨.value, "cannot convert float NaN to integer"⟩
    | .error .infinity => .error ⟨.overflow, "cannot convert float infinity to integer"⟩
  | .text s =>
    match Decimal.readInt? s with
    | some n => .ok n
    | none => .error ⟨.value, s!"invalid literal for int() with base 10: {Text.quote s}"⟩
  | j => .error ⟨.wrongType, s!"int() argument must be a string, a bytes-like object or a real number, not '{j.kindWord}'"⟩

/-- The value means the default port. -/
def isUnset : Json → Bool
  | .null => true
  | .text s => s.isEmpty
  | _ => false

/-- The port that a value writes: a whole number from 1 to 65535. A number
without whole part because it is infinite is not handled here, nor is a value
that the message cannot show. -/
def read (written : Json) (depths : Json.Depths := .usual) : Except Problem Int :=
  if isUnset written then .ok default
  else match wholeNumber written with
    | .ok n =>
      if 0 < n ∧ n < 65536 then .ok n
      else .error (.refusing depths written (.portOutOfRange n))
    | .error fault =>
      if fault.kind.isValueFault || fault.kind == .wrongType then
        .error (.refusing depths written (.portNotANumber written) (some fault))
      else .error (.fault fault)

end Upkeep.Port
