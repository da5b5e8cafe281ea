import PollingAssertions.Number.Numeral
import PollingAssertions.Text.Classes
import PollingAssertions.Time.Span

/-!
# Reading spans of time

A written span is a numeral and a unit, `250ms` or `1.5 s`; white space
around it and between its two parts is ignored and a missing unit means
milliseconds. The numeral and its product with the unit are
double-precision numbers, the product is rounded to whole nanoseconds, a
half upwards, and a reading holds at most `2 ^ 64 - 1` of them.

## Main definitions

* `Span.Unit` — the units and their names.
* `Span.ofChars?` — the span a list of characters spells.
-/

namespace PollingAssertions.Span

/-- The units a written span may have. -/
inductive Unit where
  | nanoseconds
  | microseconds
  | milliseconds
  | seconds
  | minutes
  | hours
deriving DecidableEq, Repr

namespace Unit

/-- How many nanoseconds a unit has. -/
def nanos : Unit → Nat
  | nanoseconds => 1
  | microseconds => microsecond
  | milliseconds => millisecond
  | seconds => second
  | minutes => 60 * second
  | hours => 3600 * second

/-- The unit of a given name. Microseconds may be written with the micro
sign, and no name at all means milliseconds. -/
def ofChars? : List Char → Option Unit
  | ['n', 's'] => some nanoseconds
  | ['u', 's'] => some microseconds
  | ['\u00b5', 's'] => some microseconds
  | [] => some milliseconds
  | ['m', 's'] => some milliseconds
  | ['s'] => some seconds
  | ['m'] => some minutes
  | ['h'] => some hours
  | _ => none

end Unit

/-- One more than the greatest reading. -/
def readingBound : Nat := Nat.pow 2 64

/-- Whole nanoseconds of a number of them: a half goes upwards, the bound
itself still counts as the greatest reading, and more is none. -/
def ofNanos? : Binary → Option Span
  | .finite _ m e =>
      let whole := Rounding.nearestUp (Binary.numerator m e) (Binary.denominator e)
      if readingBound < whole then none else some (min whole (readingBound - 1))
  | _ => none

/-- Characters that may stand in the numeral of a written span. -/
def isNumeral (c : Char) : Bool := c.isDigit || c == '.'

/-- The span that a numeral and a unit make. -/
def ofParts? (n : Numeral) (unit : Unit) : Option Span :=
  ofNanos? (Format.double.mul (n.toBinary .double false) (Format.double.round false unit.nanos 1))

/-- Reads a span. -/
def ofChars? (cs : List Char) : Option Span :=
  let value := Text.trim cs
  match Numeral.ofChars? (value.takeWhile isNumeral),
      Unit.ofChars? (Text.trim (value.dropWhile isNumeral)) with
  | some n, some unit => ofParts? n unit
  | _, _ => none

end PollingAssertions.Span
