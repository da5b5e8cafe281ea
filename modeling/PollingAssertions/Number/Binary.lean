/-!
# Binary floating-point numbers

A finite number is a sign and a product `significand · 2 ^ exponent` of
whole numbers, so that comparing, multiplying and printing it is integer
arithmetic. A `Format` says how many binary digits a significand has and
how far exponents reach; `Format.round` is the one place where a number
becomes inexact: it takes an exact quotient and gives the nearest number
of the format, a tie going to the even significand.

So every inexact number is an exact quotient `num / den` of naturals that
is rounded once. The two rules that occur differ only on ties: `nearestEven`
sends a tie to the even neighbour, `nearestUp`, which reads spans of time,
sends it upwards.

Zero keeps its sign. Two zeros of different sign are equal and no number
compares with `nan`, so `compare?` is partial.

## Main definitions

* `Rounding.nearestEven`, `Rounding.nearestUp` — a quotient rounded to the
  nearest natural number.
* `Format.round` — the number of a format nearest to a quotient.
* `Binary.compare?` — the partial order of numbers.
* `Format.add`, `Format.mul` — sum and product of two numbers that are not
  negative, rounded once.
-/

namespace PollingAssertions

namespace Rounding

/-- The natural number nearest to `num / den`; a tie goes to the even
neighbour. -/
def nearestEven (num den : Nat) : Nat :=
  let below := num / den
  let rest := num % den
  if 2 * rest < den then below
  else if den < 2 * rest then below + 1
  else below + below % 2

/-- The natural number nearest to `num / den`; a tie goes upwards. -/
def nearestUp (num den : Nat) : Nat := (2 * num + den) / (2 * den)

end Rounding

/-- A floating-point number. -/
inductive Binary where
  | nan
  | infinite (negative : Bool)
  | finite (negative : Bool) (significand : Nat) (exponent : Int)
deriving DecidableEq, Repr, Inhabited

/-- How many numbers there are: significands below `2 ^ digits`, exponents
from `least` to `greatest`. -/
structure Format where
  digits : Nat
  least : Int
  greatest : Int
deriving DecidableEq, Repr

namespace Format

/-- Double precision: 64 bits, 53 of them for the significand. -/
def double : Format := ⟨53, -1074, 971⟩

/-- Single precision: 32 bits, 24 of them for the significand. -/
def single : Format := ⟨24, -149, 104⟩

/-- The zero of a format. -/
def zero (form : Format) (negative : Bool) : Binary := .finite negative 0 form.least

/-- The exponent `e` with `2 ^ e ≤ num / den < 2 ^ (e + 1)`, for a positive
quotient. -/
def magnitude (num den : Nat) : Int :=
  let guess : Int := (num.log2 : Int) - (den.log2 : Int)
  if num * Nat.pow 2 (-guess).toNat < den * Nat.pow 2 guess.toNat then guess - 1 else guess

/-- The number of the format nearest to `num / den`. A quotient beyond the
greatest number is infinite. -/
def round (form : Format) (negative : Bool) (num den : Nat) : Binary :=
  if num = 0 then form.zero negative
  else
    let exponent := max form.least (magnitude num den - (form.digits : Int) + 1)
    let significand :=
      Rounding.nearestEven (num * Nat.pow 2 (-exponent).toNat) (den * Nat.pow 2 exponent.toNat)
    let carried := decide (significand = Nat.pow 2 form.digits)
    let exponent := if carried then exponent + 1 else exponent
    let significand := if carried then Nat.pow 2 (form.digits - 1) else significand
    if form.greatest < exponent then .infinite negative
    else .finite negative significand exponent

end Format

namespace Binary

/-- Numerator of the size of `significand · 2 ^ exponent`. -/
def numerator (significand : Nat) (exponent : Int) : Nat := significand * Nat.pow 2 exponent.toNat

/-- Denominator of `2 ^ exponent`. -/
def denominator (exponent : Int) : Nat := Nat.pow 2 (-exponent).toNat

theorem denominator_pos (exponent : Int) : 0 < denominator exponent :=
  Nat.two_pow_pos _

/-- Order of the sizes of two finite numbers. -/
def compareSizes (m₁ : Nat) (e₁ : Int) (m₂ : Nat) (e₂ : Int) : Ordering :=
  compare (numerator m₁ e₁ * denominator e₂) (numerator m₂ e₂ * denominator e₁)

/-- The order of two numbers; none if one of them is `nan`. Both zeros are
equal, whatever their sign. -/
def compare? : Binary → Binary → Option Ordering
  | .nan, _ => none
  | _, .nan => none
  | .infinite n₁, .infinite n₂ =>
      some (if n₁ = n₂ then .eq else if n₁ then .lt else .gt)
  | .infinite n₁, .finite .. => some (if n₁ then .lt else .gt)
  | .finite .., .infinite n₂ => some (if n₂ then .gt else .lt)
  | .finite n₁ m₁ e₁, .finite n₂ m₂ e₂ =>
      some <|
        if m₁ = 0 ∧ m₂ = 0 then .eq
        else match n₁, n₂ with
          | false, false => compareSizes m₁ e₁ m₂ e₂
          | true, true => compareSizes m₂ e₂ m₁ e₁
          | true, false => .lt
          | false, true => .gt

/-- Equality of numbers: `nan` differs from itself and the zeros agree. -/
def equal (x y : Binary) : Bool := x.compare? y == some .eq

/-- Whether a number is one of the two zeros. -/
def isZero : Binary → Bool
  | .finite _ m _ => m == 0
  | _ => false

theorem equal_zero_iff (form : Format) (x : Binary) :
    x.equal (form.zero false) = x.isZero := by
  cases x with
  | nan => rfl
  | infinite n => cases n <;> rfl
  | finite n m e =>
      by_cases hm : m = 0
      · simp [equal, compare?, Format.zero, isZero, hm]
      · have hpos : 0 < numerator m e * denominator form.least :=
          Nat.mul_pos (Nat.mul_pos (Nat.pos_of_ne_zero hm) (Nat.two_pow_pos _))
            (denominator_pos _)
        have hgt : compareSizes m e 0 form.least = .gt := by
          simp only [compareSizes]
          rw [Nat.compare_eq_gt]
          simpa [numerator] using hpos
        cases n <;> simp [equal, compare?, Format.zero, isZero, hm, hgt]

end Binary

namespace Format

/-- The sum of two numbers, for numbers that are not negative. -/
def add (form : Format) : Binary → Binary → Binary
  | .finite _ m₁ e₁, .finite _ m₂ e₂ =>
      form.round false
        (Binary.numerator m₁ e₁ * Binary.denominator e₂ +
          Binary.numerator m₂ e₂ * Binary.denominator e₁)
        (Binary.denominator e₁ * Binary.denominator e₂)
  | .nan, _ => .nan
  | _, .nan => .nan
  | _, _ => .infinite false

/-- The product of two numbers, for numbers that are not negative. -/
def mul (form : Format) : Binary → Binary → Binary
  | .finite _ m₁ e₁, .finite _ m₂ e₂ =>
      form.round false (Binary.numerator m₁ e₁ * Binary.numerator m₂ e₂)
        (Binary.denominator e₁ * Binary.denominator e₂)
  | .infinite _, .finite _ m _ => if m = 0 then .nan else .infinite false
  | .finite _ m _, .infinite _ => if m = 0 then .nan else .infinite false
  | .infinite _, .infinite _ => .infinite false
  | .nan, _ => .nan
  | _, .nan => .nan

end Format

end PollingAssertions
