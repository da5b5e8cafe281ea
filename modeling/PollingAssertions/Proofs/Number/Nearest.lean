import Mathlib.Algebra.Order.Field.Power
import Mathlib.Algebra.Order.Floor.Semifield
import Mathlib.Data.Int.Log
import Mathlib.Data.Nat.Factorization.Basic
import Mathlib.Data.Rat.Floor
import Mathlib.Tactic.FieldSimp
import Mathlib.Tactic.Linarith
import Mathlib.Tactic.NormNum
import Mathlib.Tactic.Positivity
import Mathlib.Tactic.Ring
import PollingAssertions.Number.Binary

/-!
# The nearest number of a format

Rounding works on the numerator and the denominator of an exact quotient, with shifts
instead of powers of two. Here it is compared with what it is meant to be: a function of the
quotient alone, which goes to the nearest point of a grid.

The points of the grid around a quotient are the multiples of a power of two. Its exponent
follows the size of the quotient, so that there are at most `2 ^ digits` of them below it, but
does not go below the least exponent of the format. Far away from the quotient the grid is not
the set of all numbers of the format, yet none of them is nearer than the nearest point of the
grid (`Format.closest`). Everything else about the size of a rounded number follows from this:
that a number of the format is not moved, that rounding keeps within bounds that are numbers
of the format, and how large the error may be.

## Main definitions

* `Rounding.nearest`, `Format.nearest` — the nearest whole number, and the nearest number of
  a format whose exponents have no upper end.
* `Format.Holds` — the numbers of such a format.
* `Binary.HasValue` — a finite number that is not negative, and its value.

## Main results

* `Format.closest` — no number of a format is nearer.
* `Format.nearest_of_holds`, `Format.nearest_le`, `Format.le_nearest`,
  `Format.abs_nearest_sub_le` — what follows from it.
* `Format.nearest_le_two_zpow`, `Format.two_zpow_lt_nearest` — where rounding to a power of
  two ends.
* `Format.exists_nearest_eq_natCast` — a whole number is rounded to one.
* `Format.round_hasValue`, `Format.round_infinite` — what rounding gives.
* `Format.mul_hasValue`, `Format.mul_infinite` — a product is rounded once.
* `Rounding.nearestUp_eq_floor` — the other rule for ties.
-/

namespace PollingAssertions

/-! ## Whole numbers -/

namespace Rounding

/-- The natural number nearest to one that is not negative; a tie goes to the even
neighbour. -/
def nearest (x : ℚ) : ℕ :=
  if x - ⌊x⌋₊ < 1 / 2 then ⌊x⌋₊
  else if 1 / 2 < x - ⌊x⌋₊ then ⌊x⌋₊ + 1
  else ⌊x⌋₊ + ⌊x⌋₊ % 2

variable {num den : ℕ} {x : ℚ}

theorem nearestEven_eq_nearest (num : ℕ) (hden : 0 < den) :
    nearestEven num den = nearest ((num : ℚ) / den) := by
  have hdenQ : (0 : ℚ) < den := by exact_mod_cast hden
  have hfloor : ⌊(num : ℚ) / den⌋₊ = num / den := Nat.floor_div_eq_div num den
  have hrest : (num : ℚ) / den - (num / den : ℕ) = (num % den : ℕ) / den := by
    have hsplit : ((num / den : ℕ) : ℚ) * den + (num % den : ℕ) = num := by
      exact_mod_cast Nat.div_add_mod' num den
    field_simp
    linarith
  have hbelow : ((num % den : ℕ) : ℚ) / den < 1 / 2 ↔ 2 * (num % den) < den := by
    rw [div_lt_div_iff₀ hdenQ two_pos]
    norm_cast
    omega
  have habove : (1 : ℚ) / 2 < (num % den : ℕ) / den ↔ den < 2 * (num % den) := by
    rw [div_lt_div_iff₀ two_pos hdenQ]
    norm_cast
    omega
  simp only [nearestEven, nearest, hfloor, hrest, hbelow, habove]

theorem abs_nearest_sub_le (hx : 0 ≤ x) : |(nearest x : ℚ) - x| ≤ 1 / 2 := by
  have hlower : (⌊x⌋₊ : ℚ) ≤ x := Nat.floor_le hx
  have hupper : x < ⌊x⌋₊ + 1 := Nat.lt_floor_add_one x
  rw [nearest]
  split_ifs with hbelow habove
  · rw [abs_le]
    constructor <;> linarith
  · push_cast
    rw [abs_le]
    constructor <;> linarith
  · -- a tie, from which both neighbours are half a unit away
    have htie : x = ⌊x⌋₊ + 1 / 2 := by linarith
    rcases Nat.mod_two_eq_zero_or_one ⌊x⌋₊ with hpar | hpar
    · rw [hpar, abs_le]
      push_cast
      constructor <;> linarith
    · rw [hpar, abs_le]
      push_cast
      constructor <;> linarith

theorem nearest_natCast (n : ℕ) : nearest n = n := by
  simp [nearest]

/-- No whole number is nearer. -/
theorem closest (hx : 0 ≤ x) (k : ℤ) : |(nearest x : ℚ) - x| ≤ |(k : ℚ) - x| := by
  by_cases hk : (nearest x : ℤ) = k
  · rw [← hk, Int.cast_natCast]
  · have hunit : (1 : ℚ) ≤ |(nearest x : ℚ) - k| := by
      have hdistinct : 1 ≤ |(nearest x : ℤ) - k| := Int.one_le_abs (sub_ne_zero.2 hk)
      exact_mod_cast hdistinct
    have htriangle : |(nearest x : ℚ) - k| ≤ |(nearest x : ℚ) - x| + |(k : ℚ) - x| := by
      rw [abs_sub_comm (k : ℚ) x]
      exact abs_sub_le _ _ _
    linarith [abs_nearest_sub_le hx]

theorem nearest_le (hx : 0 ≤ x) {n : ℕ} (h : x ≤ n) : nearest x ≤ n := by
  have hclosest := closest hx n
  rw [Int.cast_natCast, abs_of_nonneg (sub_nonneg.2 h)] at hclosest
  have hle : (nearest x : ℚ) ≤ n := by linarith [le_abs_self ((nearest x : ℚ) - x)]
  exact_mod_cast hle

theorem le_nearest (hx : 0 ≤ x) {n : ℕ} (h : (n : ℚ) ≤ x) : n ≤ nearest x := by
  have hclosest := closest hx n
  rw [Int.cast_natCast, abs_of_nonpos (sub_nonpos.2 h)] at hclosest
  have hle : (n : ℚ) ≤ nearest x := by linarith [neg_abs_le ((nearest x : ℚ) - x)]
  exact_mod_cast hle

theorem nearestUp_eq_floor (num : ℕ) (hden : 0 < den) :
    nearestUp num den = ⌊(num : ℚ) / den + 1 / 2⌋₊ := by
  have hdenQ : (den : ℚ) ≠ 0 := by exact_mod_cast hden.ne'
  have hquotient : (num : ℚ) / den + 1 / 2 = (2 * num + den : ℕ) / (2 * den : ℕ) := by
    push_cast
    field_simp
  rw [hquotient, Nat.floor_div_eq_div, nearestUp]

end Rounding

/-! ## Powers of two -/

/-- A power of two as the quotient of two shifts. -/
theorem two_zpow_eq (e : ℤ) :
    (2 : ℚ) ^ e = (Nat.pow 2 e.toNat : ℕ) / (Nat.pow 2 (-e).toNat : ℕ) := by
  obtain ⟨k, rfl | rfl⟩ := Int.eq_nat_or_neg e
  · simp
  · simp

theorem log_eq_of_bounds {x : ℚ} {e : ℤ} (hlower : (2 : ℚ) ^ e ≤ x) (hupper : x < 2 ^ (e + 1)) :
    Int.log 2 x = e := by
  have hx : 0 < x := lt_of_lt_of_le (zpow_pos two_pos e) hlower
  have hle : e ≤ Int.log 2 x := (Int.zpow_le_iff_le_log one_lt_two hx).1 (by exact_mod_cast hlower)
  have hlt : Int.log 2 x < e + 1 :=
    (Int.lt_zpow_iff_log_lt one_lt_two hx).1 (by exact_mod_cast hupper)
  omega

theorem zpow_log_le {x : ℚ} (hx : 0 < x) : (2 : ℚ) ^ Int.log 2 x ≤ x := by
  exact_mod_cast Int.zpow_log_le_self (b := 2) one_lt_two hx

theorem lt_zpow_log (x : ℚ) : x < (2 : ℚ) ^ (Int.log 2 x + 1) := by
  exact_mod_cast Int.lt_zpow_succ_log_self (b := 2) one_lt_two x

namespace Binary

theorem numerator_div_denominator (m : ℕ) (e : ℤ) :
    (numerator m e : ℚ) / denominator e = m * 2 ^ e := by
  rw [numerator, denominator, two_zpow_eq, Nat.cast_mul, mul_div_assoc]

/-- A finite number that is not negative, and its value. -/
def HasValue (b : Binary) (x : ℚ) : Prop := ∃ m e, b = .finite false m e ∧ x = m * 2 ^ e

end Binary

namespace Format

variable {form : Format} {num den : ℕ} {x y : ℚ}

/-- A product with shifts compares a quotient with a power of two. -/
theorem shifted_lt_iff (num : ℕ) (hden : 0 < den) (e : ℤ) :
    num * Nat.pow 2 (-e).toNat < den * Nat.pow 2 e.toNat ↔ (num : ℚ) / den < 2 ^ e := by
  have hdenQ : (0 : ℚ) < den := by exact_mod_cast hden
  have hshift : (0 : ℚ) < (Nat.pow 2 (-e).toNat : ℕ) := by exact_mod_cast Nat.two_pow_pos _
  rw [two_zpow_eq, div_lt_div_iff₀ hdenQ hshift, mul_comm ((Nat.pow 2 e.toNat : ℕ) : ℚ)]
  exact_mod_cast Iff.rfl

/-- The binary lengths of two numbers say how large their quotient is, up to a factor of two. -/
theorem quotient_bounds (hnum : 0 < num) (hden : 0 < den) :
    (2 : ℚ) ^ ((num.log2 : ℤ) - den.log2 - 1) ≤ (num : ℚ) / den ∧
      (num : ℚ) / den < 2 ^ ((num.log2 : ℤ) - den.log2 + 1) := by
  have hbounds {n : ℕ} (hn : 0 < n) :
      (2 : ℚ) ^ (n.log2 : ℤ) ≤ n ∧ (n : ℚ) < 2 ^ ((n.log2 : ℤ) + 1) := by
    rw [← Nat.cast_succ, zpow_natCast, zpow_natCast]
    exact ⟨by exact_mod_cast Nat.log2_self_le hn.ne', by exact_mod_cast Nat.lt_log2_self⟩
  obtain ⟨hnum1, hnum2⟩ := hbounds hnum
  obtain ⟨hden1, hden2⟩ := hbounds hden
  have hdenQ : (0 : ℚ) < den := by exact_mod_cast hden
  constructor
  · rw [le_div_iff₀ hdenQ]
    calc (2 : ℚ) ^ ((num.log2 : ℤ) - den.log2 - 1) * den
        ≤ 2 ^ ((num.log2 : ℤ) - den.log2 - 1) * 2 ^ ((den.log2 : ℤ) + 1) := by gcongr
      _ = 2 ^ (num.log2 : ℤ) := by rw [← zpow_add₀ two_ne_zero]; ring_nf
      _ ≤ num := hnum1
  · rw [div_lt_iff₀ hdenQ]
    calc (num : ℚ) < 2 ^ ((num.log2 : ℤ) + 1) := hnum2
      _ = 2 ^ ((num.log2 : ℤ) - den.log2 + 1) * 2 ^ (den.log2 : ℤ) := by
          rw [← zpow_add₀ two_ne_zero]; ring_nf
      _ ≤ 2 ^ ((num.log2 : ℤ) - den.log2 + 1) * den := by gcongr

/-- The magnitude of a quotient is its binary logarithm, rounded down. -/
theorem magnitude_eq_log (hnum : 0 < num) (hden : 0 < den) :
    magnitude num den = Int.log 2 ((num : ℚ) / den) := by
  obtain ⟨hlower, hupper⟩ := quotient_bounds hnum hden
  simp only [magnitude, shifted_lt_iff num hden]
  split_ifs with htest
  · exact (log_eq_of_bounds hlower (by rwa [sub_add_cancel])).symm
  · exact (log_eq_of_bounds (not_lt.1 htest) hupper).symm

/-! ## The grid around a number -/

/-- The exponent of the grid around a number that is not negative. -/
def grid (form : Format) (x : ℚ) : ℤ := max form.least (Int.log 2 x - form.digits + 1)

/-- The number of a format that is nearest to one that is not negative, if exponents had no
upper end. -/
def nearest (form : Format) (x : ℚ) : ℚ :=
  Rounding.nearest (x / 2 ^ form.grid x) * 2 ^ form.grid x

/-- The numbers of a format that are not negative, if exponents had no upper end. -/
def Holds (form : Format) (y : ℚ) : Prop :=
  ∃ (m : ℕ) (e : ℤ), m ≤ 2 ^ form.digits ∧ form.least ≤ e ∧ y = m * 2 ^ e

theorem grid_pos (form : Format) (x : ℚ) : (0 : ℚ) < 2 ^ form.grid x := zpow_pos two_pos _

/-- Rounding to a point of the grid moves a number by at most half a step. -/
theorem abs_nearest_sub_le_grid (hx : 0 ≤ x) :
    |form.nearest x - x| ≤ 2 ^ form.grid x / 2 := by
  have hgrid := form.grid_pos x
  have hscaled : |(Rounding.nearest (x / 2 ^ form.grid x) : ℚ) - x / 2 ^ form.grid x| ≤ 1 / 2 :=
    Rounding.abs_nearest_sub_le (by positivity)
  have hmove : form.nearest x - x =
      ((Rounding.nearest (x / 2 ^ form.grid x) : ℚ) - x / 2 ^ form.grid x) * 2 ^ form.grid x := by
    rw [nearest]
    field_simp
  rw [hmove, abs_mul, abs_of_pos hgrid]
  linarith [mul_le_mul_of_nonneg_right hscaled hgrid.le]

/-- No point of the grid is nearer. -/
theorem closest_on_grid (hx : 0 ≤ x) (k : ℤ) :
    |form.nearest x - x| ≤ |k * 2 ^ form.grid x - x| := by
  have hgrid := form.grid_pos x
  have hscale (z : ℚ) : |z * 2 ^ form.grid x - x| =
      |z - x / 2 ^ form.grid x| * 2 ^ form.grid x := by
    rw [← abs_of_pos hgrid, ← abs_mul, abs_of_pos hgrid, sub_mul, div_mul_cancel₀ _ hgrid.ne']
  rw [nearest, hscale, hscale]
  exact mul_le_mul_of_nonneg_right (Rounding.closest (by positivity) k) hgrid.le

theorem nearest_zero (form : Format) : form.nearest 0 = 0 := by
  have hzero : Rounding.nearest 0 = 0 := by exact_mod_cast Rounding.nearest_natCast 0
  rw [nearest, zero_div, hzero, Nat.cast_zero, zero_mul]

/-- Formats with at least one digit and at least one exponent. -/
structure Sound (form : Format) : Prop where
  digits_pos : 0 < form.digits
  least_le_greatest : form.least ≤ form.greatest

/-- No number of a format is nearer. -/
theorem closest (hform : form.Sound) (hx : 0 ≤ x) (hy : form.Holds y) :
    |form.nearest x - x| ≤ |y - x| := by
  rcases hx.eq_or_lt with rfl | hpos
  · simp [nearest_zero]
  obtain ⟨m, e, hm, he, rfl⟩ := hy
  rcases le_or_gt (form.grid x) e with hcoarse | hfine
  · -- a number with a higher exponent is a point of the grid
    have hpoint : (m : ℚ) * 2 ^ e =
        ((m * 2 ^ (e - form.grid x).toNat : ℕ) : ℤ) * 2 ^ form.grid x := by
      have hsplit : ((e - form.grid x).toNat : ℤ) + form.grid x = e := by omega
      push_cast
      rw [mul_assoc, ← zpow_natCast, ← zpow_add₀ two_ne_zero, hsplit]
    rw [hpoint]
    exact closest_on_grid hx _
  · -- the others are not above the power of two below `x`, which is a point of the grid
    have hgrid : form.grid x = Int.log 2 x - form.digits + 1 := by
      rw [grid] at hfine ⊢
      omega
    have hbelow : (m : ℚ) * 2 ^ e ≤ 2 ^ Int.log 2 x := by
      have hm' : (m : ℚ) ≤ 2 ^ (form.digits : ℤ) := by rw [zpow_natCast]; exact_mod_cast hm
      have he' : (2 : ℚ) ^ e ≤ 2 ^ (form.grid x - 1) := zpow_le_zpow_right₀ one_le_two (by omega)
      have hexp : (form.digits : ℤ) + (form.grid x - 1) = Int.log 2 x := by omega
      calc (m : ℚ) * 2 ^ e ≤ 2 ^ (form.digits : ℤ) * 2 ^ (form.grid x - 1) := by gcongr
        _ = 2 ^ Int.log 2 x := by rw [← zpow_add₀ two_ne_zero, hexp]
    have hpoint : (2 : ℚ) ^ Int.log 2 x =
        ((2 ^ (form.digits - 1) : ℕ) : ℤ) * 2 ^ form.grid x := by
      have hdigits := hform.digits_pos
      have hexp : ((form.digits - 1 : ℕ) : ℤ) + form.grid x = Int.log 2 x := by omega
      push_cast
      rw [← zpow_natCast, ← zpow_add₀ two_ne_zero, hexp]
    have hlog := zpow_log_le hpos
    calc |form.nearest x - x|
        ≤ |2 ^ Int.log 2 x - x| := by rw [hpoint]; exact closest_on_grid hx _
      _ = x - 2 ^ Int.log 2 x := by rw [abs_sub_comm, abs_of_nonneg (by linarith)]
      _ ≤ x - m * 2 ^ e := by linarith
      _ = |m * 2 ^ e - x| := by rw [abs_sub_comm, abs_of_nonneg (by linarith)]

/-- A number of the format is not moved. -/
theorem nearest_of_holds (hform : form.Sound) (hx : 0 ≤ x) (h : form.Holds x) :
    form.nearest x = x := by
  have hclosest := closest hform hx h
  rw [sub_self, abs_zero] at hclosest
  exact sub_eq_zero.1 (abs_nonpos_iff.1 hclosest)

/-- A number is not moved over a number of the format that is above it. -/
theorem nearest_le (hform : form.Sound) (hx : 0 ≤ x) (hy : form.Holds y) (h : x ≤ y) :
    form.nearest x ≤ y := by
  have hclosest := closest hform hx hy
  rw [abs_of_nonneg (sub_nonneg.2 h)] at hclosest
  linarith [le_abs_self (form.nearest x - x)]

/-- A number is not moved over a number of the format that is below it. -/
theorem le_nearest (hform : form.Sound) (hx : 0 ≤ x) (hy : form.Holds y) (h : y ≤ x) :
    y ≤ form.nearest x := by
  have hclosest := closest hform hx hy
  rw [abs_of_nonpos (sub_nonpos.2 h)] at hclosest
  linarith [neg_abs_le (form.nearest x - x)]

theorem nearest_nonneg (form : Format) (x : ℚ) : 0 ≤ form.nearest x := by
  rw [nearest]
  have hgrid := form.grid_pos x
  positivity

theorem holds_two_zpow {e : ℤ} (he : form.least ≤ e) : form.Holds (2 ^ e) :=
  ⟨1, e, Nat.one_le_two_pow, he, by rw [Nat.cast_one, one_mul]⟩

/-- The error of rounding a number that is large enough to have all digits. -/
theorem abs_nearest_sub_le (h : (2 : ℚ) ^ (form.least + form.digits - 1) ≤ x) :
    |form.nearest x - x| * 2 ^ form.digits ≤ x := by
  have hpos : 0 < x := lt_of_lt_of_le (zpow_pos two_pos _) h
  have hlog : form.least + form.digits - 1 ≤ Int.log 2 x :=
    (Int.zpow_le_iff_le_log one_lt_two hpos).1 (by exact_mod_cast h)
  have hgrid : form.grid x + form.digits = Int.log 2 x + 1 := by
    rw [grid]
    omega
  have hscale : (2 : ℚ) ^ form.grid x * 2 ^ form.digits = 2 * 2 ^ Int.log 2 x := by
    rw [← zpow_natCast, ← zpow_add₀ two_ne_zero, hgrid, zpow_add_one₀ two_ne_zero, mul_comm]
  calc |form.nearest x - x| * 2 ^ form.digits
      ≤ 2 ^ form.grid x / 2 * 2 ^ form.digits := by
        gcongr
        exact abs_nearest_sub_le_grid hpos.le
    _ = 2 ^ Int.log 2 x := by linarith
    _ ≤ x := zpow_log_le hpos

/-! ## Just above a power of two -/

variable {e : ℤ}

/-- The grid above a power of two that is large enough to have all digits. -/
theorem grid_of_bounds (he : form.least + form.digits ≤ e + 1) (hlower : (2 : ℚ) ^ e ≤ x)
    (hupper : x < 2 ^ (e + 1)) : form.grid x = e - form.digits + 1 := by
  rw [grid, log_eq_of_bounds hlower hupper]
  omega

/-- A power of two and the steps of the grid above it. -/
theorem two_zpow_eq_steps (hform : form.Sound) (e : ℤ) :
    (2 : ℚ) ^ e = 2 ^ (form.digits - 1) * 2 ^ (e - form.digits + 1) := by
  have hdigits := hform.digits_pos
  have hexp : ((form.digits - 1 : ℕ) : ℤ) + (e - form.digits + 1) = e := by omega
  rw [← zpow_natCast, ← zpow_add₀ two_ne_zero, hexp]

/-- Less than half a step above a power of two a number is rounded down to it. -/
theorem nearest_le_two_zpow (hform : form.Sound) (he : form.least + form.digits ≤ e + 1)
    (hx : 0 ≤ x) (h : x < 2 ^ e + 2 ^ (e - form.digits)) : form.nearest x ≤ 2 ^ e := by
  rcases le_or_gt x (2 ^ e) with hbelow | habove
  · have hdigits := hform.digits_pos
    exact nearest_le hform hx (holds_two_zpow (by omega)) hbelow
  · have hhalf : (2 : ℚ) ^ (e - form.digits) ≤ 2 ^ e := zpow_le_zpow_right₀ one_le_two (by omega)
    have hupper : x < 2 ^ (e + 1) := by
      rw [zpow_add_one₀ two_ne_zero]
      linarith
    have hgrid := grid_of_bounds he habove.le hupper
    have hstep : (2 : ℚ) ^ form.grid x = 2 * 2 ^ (e - form.digits) := by
      rw [hgrid, zpow_add_one₀ two_ne_zero, mul_comm]
    -- rounding stays below the next point of the grid
    have hmove : |form.nearest x - x| ≤ 2 ^ form.grid x / 2 := abs_nearest_sub_le_grid hx
    have hnext : form.nearest x < 2 ^ e + 2 ^ form.grid x := by
      linarith [le_abs_self (form.nearest x - x)]
    rw [nearest, two_zpow_eq_steps hform e, ← hgrid] at hnext ⊢
    have hpos := form.grid_pos x
    gcongr
    have hlt : (Rounding.nearest (x / 2 ^ form.grid x) : ℚ) < 2 ^ (form.digits - 1) + 1 := by
      refine lt_of_mul_lt_mul_right ?_ hpos.le
      linarith
    have hle : Rounding.nearest (x / 2 ^ form.grid x) < 2 ^ (form.digits - 1) + 1 := by
      exact_mod_cast hlt
    exact_mod_cast Nat.le_of_lt_succ hle

/-- More than half a step above a power of two a number is not rounded down to it. -/
theorem two_zpow_lt_nearest (hform : form.Sound) (he : form.least + form.digits ≤ e + 1)
    (h : 2 ^ e + 2 ^ (e - form.digits) < x) : 2 ^ e < form.nearest x := by
  have hpos : (0 : ℚ) < 2 ^ e := zpow_pos two_pos e
  have hhalf : (0 : ℚ) < 2 ^ (e - form.digits) := zpow_pos two_pos _
  have hx : 0 ≤ x := by linarith
  -- the next point of the grid is a number of the format
  have hnext : form.Holds (2 ^ e + 2 ^ (e - form.digits + 1)) := by
    refine ⟨2 ^ (form.digits - 1) + 1, e - form.digits + 1, ?_, by omega, ?_⟩
    · have hsplit : 2 ^ form.digits = 2 ^ (form.digits - 1) * 2 := by
        rw [← pow_succ, Nat.sub_add_cancel hform.digits_pos]
      have hone : 1 ≤ 2 ^ (form.digits - 1) := Nat.one_le_two_pow
      omega
    · rw [two_zpow_eq_steps hform e]
      push_cast
      ring
  have hstep : (2 : ℚ) ^ (e - form.digits + 1) = 2 ^ (e - form.digits) * 2 :=
    zpow_add_one₀ two_ne_zero _
  rcases le_or_gt (2 ^ e + 2 ^ (e - form.digits + 1)) x with habove | hbelow
  · have hle := le_nearest hform hx hnext habove
    linarith
  · have hclosest := closest hform hx hnext
    rw [abs_of_pos (sub_pos.2 hbelow)] at hclosest
    linarith [neg_abs_le (form.nearest x - x)]

/-! ## Whole numbers in a format -/

theorem holds_natCast (hleast : form.least ≤ 0) {n : ℕ} (hn : n ≤ 2 ^ form.digits) :
    form.Holds n :=
  ⟨n, 0, hn, hleast, by simp⟩

/-- A divisor of a whole number needs no more digits. -/
theorem Holds.of_mul (hleast : form.least ≤ 0) {n k : ℕ} (hk : 0 < k)
    (h : form.Holds ((n * k : ℕ) : ℚ)) : form.Holds n := by
  rcases Nat.eq_zero_or_pos n with rfl | hn
  · exact holds_natCast hleast (Nat.zero_le _)
  obtain ⟨m, e, hm, -, hvalue⟩ := h
  have hshifted : n * k * 2 ^ (-e).toNat = m * 2 ^ e.toNat := by
    rw [two_zpow_eq, ← mul_div_assoc, eq_div_iff (by exact_mod_cast (Nat.two_pow_pos _).ne')]
      at hvalue
    exact_mod_cast hvalue
  -- the odd part of `n` divides `m`
  obtain ⟨shift, odd, hodd, hsplit⟩ := Nat.exists_eq_two_pow_mul_odd hn.ne'
  have hdvd : odd ∣ m * 2 ^ e.toNat := by
    rw [← hshifted, hsplit]
    exact ⟨2 ^ shift * k * 2 ^ (-e).toNat, by ring⟩
  have hdvd' : odd ∣ m :=
    Nat.Coprime.dvd_of_dvd_mul_right (Nat.Coprime.pow_right _ hodd.coprime_two_right) hdvd
  have hmpos : 0 < m := by
    rw [Nat.pos_iff_ne_zero]
    rintro rfl
    rw [Nat.zero_mul] at hshifted
    exact absurd hshifted (by positivity)
  refine ⟨odd, shift, (Nat.le_of_dvd hmpos hdvd').trans hm, hleast.trans (Int.natCast_nonneg _), ?_⟩
  rw [hsplit, zpow_natCast]
  push_cast
  ring

/-- A whole number is rounded to a whole number. -/
theorem exists_nearest_eq_natCast (hform : form.Sound) (hleast : form.least ≤ 0) (n : ℕ) :
    ∃ m : ℕ, form.nearest n = m := by
  rcases le_or_gt 0 (form.grid n) with hcoarse | hfine
  · obtain ⟨shift, hshift⟩ := Int.eq_ofNat_of_zero_le hcoarse
    refine ⟨Rounding.nearest (n / 2 ^ form.grid n) * 2 ^ shift, ?_⟩
    rw [nearest, hshift]
    push_cast
    rfl
  · -- the number has fewer digits than the format
    have hsmall : (n : ℚ) < 2 ^ (form.digits : ℤ) := by
      refine (lt_zpow_log (n : ℚ)).trans_le (zpow_le_zpow_right₀ one_le_two ?_)
      rw [grid] at hfine
      omega
    have hn : n < 2 ^ form.digits := by
      rw [zpow_natCast] at hsmall
      exact_mod_cast hsmall
    exact ⟨n, nearest_of_holds hform (Nat.cast_nonneg n) (holds_natCast hleast hn.le)⟩

/-- The error of rounding a whole number. -/
theorem abs_nearest_natCast_sub_le (hleast : form.least + form.digits ≤ 1) (n : ℕ) :
    |form.nearest n - n| * 2 ^ form.digits ≤ n := by
  rcases Nat.eq_zero_or_pos n with rfl | hn
  · rw [Nat.cast_zero, nearest_zero, sub_zero, abs_zero, zero_mul]
  · refine abs_nearest_sub_le ?_
    have hone : (1 : ℚ) ≤ n := by exact_mod_cast hn
    have hpow : (2 : ℚ) ^ (form.least + form.digits - 1) ≤ 2 ^ (0 : ℤ) :=
      zpow_le_zpow_right₀ one_le_two (by omega)
    rw [zpow_zero] at hpow
    linarith

/-! ## What rounding gives -/

/-- How rounding comes to its result. -/
theorem round_eq (form : Format) (negative : Bool) (hnum : 0 < num) (hden : 0 < den)
    (hx : (num : ℚ) / den = x) :
    form.round negative num den =
      if Rounding.nearest (x / 2 ^ form.grid x) = 2 ^ form.digits then
        if form.greatest < form.grid x + 1 then .infinite negative
        else .finite negative (2 ^ (form.digits - 1)) (form.grid x + 1)
      else if form.greatest < form.grid x then .infinite negative
      else .finite negative (Rounding.nearest (x / 2 ^ form.grid x)) (form.grid x) := by
  have hsignificand (e : ℤ) :
      Rounding.nearestEven (num * Nat.pow 2 (-e).toNat) (den * Nat.pow 2 e.toNat) =
        Rounding.nearest (x / 2 ^ e) := by
    have hshifted : 0 < den * Nat.pow 2 e.toNat := Nat.mul_pos hden (Nat.two_pow_pos _)
    have hquotient : ((num * Nat.pow 2 (-e).toNat : ℕ) : ℚ) / (den * Nat.pow 2 e.toNat : ℕ) =
        x / 2 ^ e := by
      rw [two_zpow_eq, ← hx]
      push_cast
      field_simp
    rw [Rounding.nearestEven_eq_nearest _ hshifted, hquotient]
  have hgrid : max form.least (magnitude num den - (form.digits : ℤ) + 1) = form.grid x := by
    rw [magnitude_eq_log hnum hden, hx, grid]
  have hpow (k : ℕ) : Nat.pow 2 k = 2 ^ k := rfl
  simp only [round, if_neg hnum.ne', hgrid, hsignificand]
  simp only [hpow, decide_eq_true_eq]
  split_ifs <;> rfl

theorem significand_le (form : Format) (hx : 0 < x) :
    Rounding.nearest (x / 2 ^ form.grid x) ≤ 2 ^ form.digits := by
  have hgrid := form.grid_pos x
  refine Rounding.nearest_le (by positivity) ?_
  rw [div_le_iff₀ hgrid]
  push_cast
  have hexp : Int.log 2 x + 1 ≤ (form.digits : ℤ) + form.grid x := by
    rw [grid]
    omega
  calc x ≤ 2 ^ (Int.log 2 x + 1) := (lt_zpow_log x).le
    _ ≤ 2 ^ ((form.digits : ℤ) + form.grid x) := zpow_le_zpow_right₀ one_le_two hexp
    _ = 2 ^ form.digits * 2 ^ form.grid x := by rw [zpow_add₀ two_ne_zero, zpow_natCast]

theorem le_significand (hform : form.Sound) (hx : 0 < x) (h : form.least < form.grid x) :
    2 ^ (form.digits - 1) ≤ Rounding.nearest (x / 2 ^ form.grid x) := by
  have hgrid := form.grid_pos x
  refine Rounding.le_nearest (by positivity) ?_
  rw [le_div_iff₀ hgrid]
  push_cast
  have hexp : ((form.digits - 1 : ℕ) : ℤ) + form.grid x = Int.log 2 x := by
    have hdigits := hform.digits_pos
    rw [grid] at h ⊢
    omega
  calc (2 : ℚ) ^ (form.digits - 1) * 2 ^ form.grid x = 2 ^ Int.log 2 x := by
        rw [← zpow_natCast, ← zpow_add₀ two_ne_zero, hexp]
    _ ≤ x := zpow_log_le hx

/-- A significand with one digit too many stands for a power of two. -/
theorem nearest_of_carried
    (h : Rounding.nearest (x / 2 ^ form.grid x) = 2 ^ form.digits) :
    form.nearest x = 2 ^ (form.grid x + form.digits) := by
  rw [nearest, h, zpow_add₀ two_ne_zero, zpow_natCast, mul_comm]
  push_cast
  rfl

/-- A number whose grid is beyond the greatest exponent is rounded beyond the end of the
format. -/
theorem end_le_nearest (hform : form.Sound) (hx : 0 < x) (h : form.greatest < form.grid x) :
    2 ^ (form.greatest + form.digits) ≤ form.nearest x := by
  have hfull := le_significand hform hx (hform.least_le_greatest.trans_lt h)
  have hdigits := hform.digits_pos
  have hexp : form.greatest + form.digits ≤ ((form.digits - 1 : ℕ) : ℤ) + form.grid x := by omega
  calc (2 : ℚ) ^ (form.greatest + form.digits)
      ≤ 2 ^ (((form.digits - 1 : ℕ) : ℤ) + form.grid x) := zpow_le_zpow_right₀ one_le_two hexp
    _ = (2 ^ (form.digits - 1) : ℕ) * 2 ^ form.grid x := by
        rw [zpow_add₀ two_ne_zero, zpow_natCast]
        push_cast
        rfl
    _ ≤ form.nearest x := by
        rw [nearest]
        gcongr

/-- Below the end of the format rounding gives the nearest number. -/
theorem round_hasValue (hform : form.Sound) (hden : 0 < den) (hx : (num : ℚ) / den = x)
    (h : form.nearest x < 2 ^ (form.greatest + form.digits)) :
    (form.round false num den).HasValue (form.nearest x) := by
  rcases Nat.eq_zero_or_pos num with hzero | hnum
  · subst hzero
    refine ⟨0, form.least, by rw [round, if_pos rfl, zero], ?_⟩
    rw [← hx, Nat.cast_zero, zero_div, nearest_zero, zero_mul]
  have hpos : 0 < x := by
    rw [← hx]
    positivity
  have hdigits := hform.digits_pos
  rw [round_eq form false hnum hden hx]
  by_cases hcarried : Rounding.nearest (x / 2 ^ form.grid x) = 2 ^ form.digits
  · rw [nearest_of_carried hcarried] at h ⊢
    have hinside : ¬ form.greatest < form.grid x + 1 := by
      have hexp := (zpow_lt_zpow_iff_right₀ one_lt_two).1 h
      omega
    rw [if_pos hcarried, if_neg hinside]
    refine ⟨_, _, rfl, ?_⟩
    have hexp : form.grid x + (form.digits : ℤ) =
        ((form.digits - 1 : ℕ) : ℤ) + (form.grid x + 1) := by
      omega
    push_cast
    rw [← zpow_natCast, ← zpow_add₀ two_ne_zero, hexp]
  · have hinside : ¬ form.greatest < form.grid x :=
      fun hbeyond => not_lt.2 (end_le_nearest hform hpos hbeyond) h
    rw [if_neg hcarried, if_neg hinside]
    exact ⟨_, _, rfl, rfl⟩

/-- From the end of the format on rounding gives an infinite number. -/
theorem round_infinite (hden : 0 < den) (hx : (num : ℚ) / den = x)
    (h : 2 ^ (form.greatest + form.digits) ≤ form.nearest x) :
    form.round false num den = .infinite false := by
  have hend : (0 : ℚ) < 2 ^ (form.greatest + form.digits) := zpow_pos two_pos _
  have hnum : 0 < num := by
    by_contra hzero
    rw [← hx, Nat.eq_zero_of_not_pos hzero, Nat.cast_zero, zero_div, nearest_zero] at h
    linarith
  have hpos : 0 < x := by
    rw [← hx]
    positivity
  rw [round_eq form false hnum hden hx]
  by_cases hcarried : Rounding.nearest (x / 2 ^ form.grid x) = 2 ^ form.digits
  · rw [nearest_of_carried hcarried] at h
    have hexp := (zpow_le_zpow_iff_right₀ one_lt_two).1 h
    rw [if_pos hcarried, if_pos (by omega)]
  · have hroom : Rounding.nearest (x / 2 ^ form.grid x) < 2 ^ form.digits :=
      lt_of_le_of_ne (significand_le form hpos) hcarried
    have hsmall : form.nearest x < 2 ^ ((form.digits : ℤ) + form.grid x) := by
      rw [nearest, zpow_add₀ two_ne_zero, zpow_natCast]
      have hgrid := form.grid_pos x
      gcongr
      exact_mod_cast hroom
    have hexp := (zpow_lt_zpow_iff_right₀ one_lt_two).1 (lt_of_le_of_lt h hsmall)
    rw [if_neg hcarried, if_pos (by omega)]

/-! ## Products -/

variable {a b : Binary}

/-- The quotient that is rounded for a product. -/
theorem product_eq (m₁ m₂ : ℕ) (e₁ e₂ : ℤ) :
    ((Binary.numerator m₁ e₁ * Binary.numerator m₂ e₂ : ℕ) : ℚ) /
        (Binary.denominator e₁ * Binary.denominator e₂ : ℕ) = m₁ * 2 ^ e₁ * (m₂ * 2 ^ e₂) := by
  rw [Nat.cast_mul, Nat.cast_mul, ← div_mul_div_comm, Binary.numerator_div_denominator,
    Binary.numerator_div_denominator]

/-- A product is rounded once. -/
theorem mul_hasValue (hform : form.Sound) (ha : a.HasValue x) (hb : b.HasValue y)
    (h : form.nearest (x * y) < 2 ^ (form.greatest + form.digits)) :
    (form.mul a b).HasValue (form.nearest (x * y)) := by
  obtain ⟨m₁, e₁, rfl, rfl⟩ := ha
  obtain ⟨m₂, e₂, rfl, rfl⟩ := hb
  exact round_hasValue hform
    (Nat.mul_pos (Binary.denominator_pos e₁) (Binary.denominator_pos e₂)) (product_eq ..) h

theorem mul_infinite (ha : a.HasValue x) (hb : b.HasValue y)
    (h : 2 ^ (form.greatest + form.digits) ≤ form.nearest (x * y)) :
    form.mul a b = .infinite false := by
  obtain ⟨m₁, e₁, rfl, rfl⟩ := ha
  obtain ⟨m₂, e₂, rfl, rfl⟩ := hb
  exact round_infinite
    (Nat.mul_pos (Binary.denominator_pos e₁) (Binary.denominator_pos e₂)) (product_eq ..) h

/-- A product with an infinite number is infinite, unless the other number is zero. -/
theorem mul_of_infinite (hb : b.HasValue y) (hy : y ≠ 0) :
    form.mul (.infinite false) b = .infinite false := by
  obtain ⟨m, e, rfl, rfl⟩ := hb
  have hm : m ≠ 0 := by
    rintro rfl
    exact hy (by rw [Nat.cast_zero, zero_mul])
  rw [mul, if_neg hm]

theorem double_sound : double.Sound := ⟨by decide, by decide⟩

end Format

end PollingAssertions
