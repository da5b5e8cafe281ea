import PollingAssertions.Number.Binary

/-!
# Spans of time

A span is a number of nanoseconds between zero and `Span.max`, the longest
span that 64 bits of whole seconds can hold. Sums saturate there and
differences at zero, so a clock pushed to the end of time stays at it.

The text of a span inside a message takes the largest unit that is not
above it and drops trailing zeros: `1.5s`, `5ms`, `1µs`, `0ns`.

A report states elapsed time in seconds with three decimal places instead.
The seconds are a double-precision number: the whole seconds and the
fraction are each rounded to one, and so is their sum; only then are the
places cut, a tie going to the even digit. Half a millisecond may therefore
go either way, since `1.0005` seconds is a double just below that decimal.

## Main definitions

* `Span.add`, `Span.sub` — sums and differences.
* `Span.text` — a span inside a message.
* `Span.seconds` — a span as a double-precision number of seconds.
* `Span.elapsedText` — the same with three decimal places.

## Main results

* `add_le_max`, `add_eq` — a sum never leaves the range, and is exact
  while it fits.
-/

namespace PollingAssertions

/-- A span of time in nanoseconds. -/
abbrev Span := Nat

namespace Span

/-- Nanoseconds in a microsecond, a millisecond and a second. -/
def microsecond : Span := 1000
@[inherit_doc microsecond] def millisecond : Span := 1000000
@[inherit_doc microsecond] def second : Span := 1000000000

/-- The longest span: `2 ^ 64` seconds less one nanosecond. -/
def max : Span := 18446744073709551615999999999

/-- The sum of two spans, or the longest span if the sum is longer. -/
def add (a b : Span) : Span := Min.min (a + b) max

/-- What is left of `a` after `b`; nothing if `b` is longer. -/
def sub (a b : Span) : Span := a - b

theorem add_le_max (a b : Span) : add a b ≤ max := Nat.min_le_right _ _

theorem add_eq {a b : Span} (h : a + b ≤ max) : add a b = a + b :=
  Nat.min_eq_left h

theorem le_add {a : Span} (b : Span) (h : a ≤ max) : a ≤ add a b :=
  Nat.le_min.2 ⟨Nat.le_add_right a b, h⟩

/-- Decimal digits of `n`, at least `width` of them. -/
def padded (n width : Nat) : List Char :=
  let ds := Nat.toDigits 10 n
  List.replicate (width - ds.length) '0' ++ ds

/-- `whole` followed by the fraction `part / 10 ^ places`, trailing zeros
dropped. -/
def withFraction (whole part places : Nat) : List Char :=
  let fraction := (padded part places).reverse.dropWhile (· == '0') |>.reverse
  Nat.toDigits 10 whole ++ (if fraction.isEmpty then [] else '.' :: fraction)

/-- The text of a span inside a message. -/
def text (d : Span) : String :=
  if second ≤ d then
    String.ofList (withFraction (d / second) (d % second) 9) ++ "s"
  else if millisecond ≤ d then
    String.ofList (withFraction (d / millisecond) (d % millisecond) 6) ++ "ms"
  else if microsecond ≤ d then
    String.ofList (withFraction (d / microsecond) (d % microsecond) 3) ++ "µs"
  else String.ofList (withFraction d 0 0) ++ "ns"

/-! ## Elapsed time in a report -/

/-- A span as a double-precision number of seconds. -/
def seconds (d : Span) : Binary :=
  let whole := Format.double.round false (d / second) 1
  let fraction := Format.double.round false (d % second) second
  Format.double.add whole fraction

/-- A number of thousandths in positional notation, `1.234`. -/
def thousandths (n : Nat) : String :=
  String.ofList (Nat.toDigits 10 (n / 1000) ++ '.' :: padded (n % 1000) 3)

/-- The seconds of a span with three decimal places. -/
def elapsedText (d : Span) : String :=
  match d.seconds with
  | .finite _ m e =>
      thousandths (Rounding.nearestEven (1000 * Binary.numerator m e) (Binary.denominator e))
  | _ => ""

end Span

end PollingAssertions
