import PollingAssertions.Number.Binary

/-!
# Writing floating-point numbers

A number is written with the fewest decimal digits that read back to it,
and of the candidates with that many digits with the nearest one, the
larger of two equally near ones. Whether a decimal reads back is an integer
comparison: the reals that round to `significand · 2 ^ exponent` lie between
the two halfway points to its neighbours, the halfway points included
exactly for an even significand.

How the digits are laid out is the choice of one record, `Layout.value`:
positional notation with at least one decimal place between `10⁻⁴` and
`10¹⁶`, a bare exponent outside.

## Main definitions

* `Shortest.digits` — the fewest digits that read back, with their scale.
* `Layout` — how digits become text.
* `Binary.text` — the text of a number inside a message.
-/

namespace PollingAssertions

/-- The decimal number `digits · 10 ^ exponent`. -/
structure Decimal where
  digits : Nat
  exponent : Int
deriving DecidableEq, Repr

namespace Decimal

/-- Order of `digits · 10 ^ exponent` against `m · 2 ^ e`, exactly. -/
def compareBinary (d : Decimal) (m : Nat) (e : Int) : Ordering :=
  compare (d.digits * Nat.pow 10 d.exponent.toNat * Nat.pow 2 (-e).toNat)
    (m * Nat.pow 2 e.toNat * Nat.pow 10 (-d.exponent).toNat)

/-- The same number without trailing zeros among its digits. -/
def strip (d : Decimal) : Nat → Decimal
  | 0 => d
  | n + 1 =>
      if d.digits % 10 = 0 ∧ d.digits ≠ 0 then
        strip ⟨d.digits / 10, d.exponent + 1⟩ n
      else d

end Decimal

namespace Shortest

/-- Whether the decimal `d` rounds to `m · 2 ^ e`. Below the least
significand of full length the neighbour is only half as far away. -/
def readsBack (form : Format) (m : Nat) (e : Int) (d : Decimal) : Bool :=
  let narrow := m == Nat.pow 2 (form.digits - 1) && decide (form.least < e)
  let low := if narrow then 4 * m - 1 else 4 * m - 2
  let high := 4 * m + 2
  let even := m % 2 == 0
  let atLow := d.compareBinary low (e - 2)
  let atHigh := d.compareBinary high (e - 2)
  (atLow == .gt || (even && atLow == .eq)) && (atHigh == .lt || (even && atHigh == .eq))

/-- The least `k` with `m · 2 ^ e < 10 ^ k`, searched upwards from `k` for at
most the given number of steps. -/
def scaleFrom (m : Nat) (e : Int) (k : Int) : Nat → Int
  | 0 => k
  | n + 1 =>
      if (Decimal.mk 1 k).compareBinary m e == .gt then k else scaleFrom m e (k + 1) n

/-- The least `k` with `m · 2 ^ e < 10 ^ k`. Three tenths of the binary
length underestimate it by a few units only. -/
def scale (m : Nat) (e : Int) : Int :=
  let binary : Int := (m.log2 : Int) + e
  let guess := if 0 ≤ binary then binary * 30 / 100 else binary * 31 / 100 - 1
  scaleFrom m e guess 40

/-- The decimal next below `m · 2 ^ e` among the multiples of
`10 ^ exponent`. -/
def floorOn (m : Nat) (e : Int) (exponent : Int) : Nat :=
  (m * Nat.pow 2 e.toNat * Nat.pow 10 (-exponent).toNat) /
    (Nat.pow 2 (-e).toNat * Nat.pow 10 exponent.toNat)

/-- Whether the upper of two neighbouring decimals is taken: the lower one is
only where it is strictly nearer. -/
def takesUpper (m : Nat) (e : Int) (below : Nat) (exponent : Int) : Bool :=
  (Decimal.mk (2 * below + 1) exponent).compareBinary (2 * m) e != .gt

/-- Tries decimals with more and more digits, `n` further ones at most. -/
def search (form : Format) (m : Nat) (e : Int) (exponent : Int) : Nat → Option Decimal
  | 0 => none
  | n + 1 =>
      let below := floorOn m e exponent
      let lower := Decimal.mk below exponent
      let upper := Decimal.mk (below + 1) exponent
      let lowerFits := readsBack form m e lower
      let upperFits := readsBack form m e upper
      if lowerFits && upperFits then
        some (if takesUpper m e below exponent then upper else lower)
      else if lowerFits then some lower
      else if upperFits then some upper
      else search form m e (exponent - 1) n

/-- The fewest digits that read back to `m · 2 ^ e`, for a positive `m`.
Seventeen digits always suffice; the exact value stands in should they
not. -/
def digits (form : Format) (m : Nat) (e : Int) : Decimal :=
  let k := scale m e
  match search form m e (k - 1) 20 with
  | some d => d.strip 400
  | none =>
      if 0 ≤ e then ⟨m * Nat.pow 2 e.toNat, 0⟩
      else ⟨m * Nat.pow 5 (-e).toNat, e⟩

end Shortest

/-- How decimal digits are laid out. -/
structure Layout where
  /-- Numbers from this power of ten upwards get an exponent. -/
  positionalBelow : Int
  /-- Numbers below this power of ten get an exponent. -/
  positionalFrom : Int
  /-- How many decimal places a positional number has at least. -/
  leastPlaces : Nat

namespace Layout

/-- Values inside messages: `1.0`, `0.0001`, `1e16`, `1.25e-7`. -/
def value : Layout := ⟨16, -4, 1⟩

/-- `n` zeros. -/
def zeros (n : Nat) : List Char := List.replicate n '0'

/-- Positional notation of `digits · 10 ^ exponent`. -/
def positional (layout : Layout) (d : Decimal) : List Char :=
  let ds := Nat.toDigits 10 d.digits
  if 0 ≤ d.exponent then
    let whole := ds ++ zeros d.exponent.toNat
    if layout.leastPlaces = 0 then whole
    else whole ++ '.' :: zeros layout.leastPlaces
  else
    let places := (-d.exponent).toNat
    let padded := zeros (places + 1 - ds.length) ++ ds
    let whole := padded.take (padded.length - places)
    let fraction := padded.drop (padded.length - places)
    whole ++ '.' :: fraction ++ zeros (layout.leastPlaces - places)

/-- One digit, a point before further ones, and the exponent. -/
def scientific (d : Decimal) : List Char :=
  let ds := Nat.toDigits 10 d.digits
  let power := d.exponent + (ds.length : Int) - 1
  let mantissa :=
    match ds with
    | first :: [] => [first]
    | first :: others => first :: '.' :: others
    | [] => []
  mantissa ++ 'e' :: (toString power).toList

/-- The text of a positive decimal without trailing zeros. -/
def render (layout : Layout) (d : Decimal) : List Char :=
  let power := d.exponent + ((Nat.toDigits 10 d.digits).length : Int) - 1
  if layout.positionalFrom ≤ power ∧ power < layout.positionalBelow then
    layout.positional d
  else scientific d

end Layout

/-- The text of a number inside a message. -/
def Binary.text (form : Format) : Binary → String
  | .nan => "NaN"
  | .infinite negative => if negative then "-inf" else "inf"
  | .finite negative m e =>
      let body :=
        if m = 0 then Layout.value.positional ⟨0, 0⟩
        else Layout.value.render (Shortest.digits form m e)
      String.ofList (if negative then '-' :: body else body)

end PollingAssertions
