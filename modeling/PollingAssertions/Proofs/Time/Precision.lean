import Mathlib.Algebra.Order.Floor.Div
import Mathlib.Algebra.Order.Group.MinMax
import PollingAssertions.Proofs.Number.Nearest
import PollingAssertions.Proofs.Time.Notation

/-!
# How precisely spans are read

The number of a written span and its product with the unit are rounded to double precision. So
a reading is a function of two exact numbers, the value of the numeral and the nanoseconds of
the unit, by way of `product`.

Whole numbers stay whole under both roundings, and the two errors together are a tiny part of
the exact number of nanoseconds. At the upper end three things meet: the greatest reading has
more digits than the format, the bound above it is a number of the format, and a product that
is rounded to the bound still counts as the greatest reading. For every unit the least number
that reaches the bound is not rounded, so no product is rounded from above the bound to below
it, or the other way round.

## Main definitions

* `Numeral.value` — the exact value of a numeral.
* `Span.product` — what double precision makes of a number of units.
* `Span.reading?` — the whole nanoseconds of a number of them.

## Main results

* `Span.ofParts?_eq` — a numeral and a unit are read by way of their product.
* `Span.exists_ofParts?_eq_some` — moderate numbers are read.
* `Span.product_of_holds`, `Span.abs_product_sub_le` — when the product is exact, and how far
  off it is.
* `Span.reading?_product_of_lt`, `Span.reading?_product_of_ge` — whole numbers of units below
  the bound and from the bound on.
-/

namespace PollingAssertions

/-- The exact number that a numeral stands for. -/
def Numeral.value (n : Numeral) : ℚ := n.digits / 10 ^ n.places

namespace Span

/-! ## The product of a number and a unit -/

/-- The nanoseconds that double precision makes of a number of units. Both the number and the
product are rounded. -/
def product (x : ℚ) (unit : Unit) : ℚ :=
  Format.double.nearest (Format.double.nearest x * unit.nanos)

/-- Whole nanoseconds of a number of them: a half goes upwards, the bound itself still counts as
the greatest reading, and more is none. -/
def reading? (y : ℚ) : Option Span :=
  if readingBound < ⌊y + 1 / 2⌋₊ then none else some (min ⌊y + 1 / 2⌋₊ (readingBound - 1))

variable {x y : ℚ} {unit : Unit}

theorem readingBound_eq : (readingBound : ℚ) = 2 ^ (64 : ℤ) := by
  norm_num [readingBound]

theorem ofNanos?_of_hasValue {b : Binary} (h : b.HasValue y) : ofNanos? b = reading? y := by
  obtain ⟨m, e, rfl, rfl⟩ := h
  rw [ofNanos?, reading?, Rounding.nearestUp_eq_floor _ (Binary.denominator_pos e),
    Binary.numerator_div_denominator]

theorem reading?_of_gt (h : (readingBound : ℚ) + 1 ≤ y) : reading? y = none := by
  rw [reading?, if_pos]
  refine Nat.lt_of_succ_le (Nat.le_floor ?_)
  push_cast
  linarith

namespace Unit

theorem nanos_pos (unit : Unit) : 0 < unit.nanos := by
  cases unit <;> decide

theorem nanos_le (unit : Unit) : unit.nanos ≤ 2 ^ 42 := by
  cases unit <;> decide

/-- The nanoseconds of a unit are a number of double precision. -/
theorem holds_nanos (unit : Unit) : Format.double.Holds unit.nanos :=
  Format.holds_natCast (by decide) (unit.nanos_le.trans (by decide))

end Unit

/-- Infinity begins above the readings. -/
theorem bound_le_double_end :
    (readingBound : ℚ) + 1 ≤ 2 ^ (Format.double.greatest + Format.double.digits) := by
  have hend : (2 : ℚ) ^ (65 : ℤ) ≤ 2 ^ (Format.double.greatest + Format.double.digits) :=
    zpow_le_zpow_right₀ one_le_two (by decide)
  rw [readingBound_eq]
  refine le_trans ?_ hend
  norm_num

theorem hasValue_nanos (unit : Unit) :
    (Format.double.round false unit.nanos 1).HasValue unit.nanos := by
  have hnearest : Format.double.nearest unit.nanos = unit.nanos :=
    Format.nearest_of_holds Format.double_sound (Nat.cast_nonneg _) unit.holds_nanos
  have hnanos : (unit.nanos : ℚ) ≤ 2 ^ 42 := by exact_mod_cast unit.nanos_le
  have hfinite : Format.double.nearest unit.nanos <
      2 ^ (Format.double.greatest + Format.double.digits) := by
    refine lt_of_lt_of_le ?_ bound_le_double_end
    rw [hnearest, readingBound_eq]
    exact hnanos.trans_lt (by norm_num)
  have hquotient : (unit.nanos : ℚ) / (1 : ℕ) = unit.nanos := by rw [Nat.cast_one, div_one]
  have hvalue := Format.round_hasValue Format.double_sound Nat.one_pos hquotient hfinite
  rwa [hnearest] at hvalue

/-- A numeral and a unit are read with a product in double precision. -/
theorem ofParts?_eq (n : Numeral) (unit : Unit) :
    ofParts? n unit = reading? (product n.value unit) := by
  have hden : 0 < Nat.pow 10 n.places := Nat.pow_pos (by decide)
  have hvalue : (n.digits : ℚ) / (Nat.pow 10 n.places : ℕ) = n.value := by
    rw [Numeral.value, Nat.pow_eq]
    push_cast
    rfl
  have hunit := hasValue_nanos unit
  have hnanos : (1 : ℚ) ≤ unit.nanos := by exact_mod_cast unit.nanos_pos
  rw [ofParts?, Numeral.toBinary]
  rcases lt_or_ge (Format.double.nearest n.value)
    (2 ^ (Format.double.greatest + Format.double.digits)) with hfinite | hinfinite
  · have hnumber := Format.round_hasValue Format.double_sound hden hvalue hfinite
    rcases lt_or_ge (product n.value unit)
      (2 ^ (Format.double.greatest + Format.double.digits)) with hproduct | hbeyond
    · exact ofNanos?_of_hasValue
        (Format.mul_hasValue Format.double_sound hnumber hunit hproduct)
    · rw [Format.mul_infinite hnumber hunit hbeyond,
        reading?_of_gt (bound_le_double_end.trans hbeyond)]
      rfl
  · -- the product is no smaller than the number
    have hlarge : 2 ^ (Format.double.greatest + Format.double.digits) ≤ product n.value unit := by
      have hnonneg := Format.double.nearest_nonneg n.value
      refine Format.le_nearest Format.double_sound (by positivity)
        (Format.holds_two_zpow (by decide)) (hinfinite.trans ?_)
      exact le_mul_of_one_le_right hnonneg hnanos
    rw [Format.round_infinite hden hvalue hinfinite,
      Format.mul_of_infinite hunit (by linarith), reading?_of_gt (bound_le_double_end.trans hlarge)]
    rfl

/-- A number up to a million is read, whatever the unit. -/
theorem exists_ofParts?_eq_some (n : Numeral) (unit : Unit)
    (h : n.value ≤ 1000000) : ∃ d, ofParts? n unit = some d := by
  have hvalue : n.value ≤ 2 ^ (20 : ℤ) := h.trans (by norm_num)
  have hnonneg : 0 ≤ n.value := by
    rw [Numeral.value]
    positivity
  have hnumber : Format.double.nearest n.value ≤ 2 ^ (20 : ℤ) :=
    Format.nearest_le Format.double_sound hnonneg (Format.holds_two_zpow (by decide)) hvalue
  have hnanos : (unit.nanos : ℚ) ≤ 2 ^ 42 := by exact_mod_cast unit.nanos_le
  have hproduct : product n.value unit ≤ 2 ^ (62 : ℤ) := by
    have hnumber' := Format.double.nearest_nonneg n.value
    refine Format.nearest_le Format.double_sound (by positivity)
      (Format.holds_two_zpow (by decide)) ?_
    calc Format.double.nearest n.value * unit.nanos ≤ 2 ^ (20 : ℤ) * 2 ^ 42 := by gcongr
      _ ≤ 2 ^ (62 : ℤ) := by norm_num
  refine ⟨_, (ofParts?_eq n unit).trans (if_neg (not_lt.2 (Nat.floor_le_of_le ?_)))⟩
  rw [readingBound_eq]
  refine (add_le_add_left hproduct (1 / 2)).trans ?_
  norm_num

/-! ## Whole numbers -/

/-- The product of a whole number is whole. -/
theorem exists_product_eq_natCast (n : ℕ) (unit : Unit) :
    ∃ whole : ℕ, product n unit = whole := by
  obtain ⟨m, hm⟩ := Format.exists_nearest_eq_natCast Format.double_sound (by decide) n
  rw [product, hm, ← Nat.cast_mul]
  exact Format.exists_nearest_eq_natCast Format.double_sound (by decide) _

theorem reading?_natCast (whole : ℕ) :
    reading? whole =
      if readingBound < whole then none else some (min whole (readingBound - 1)) := by
  have hfloor : ⌊(whole : ℚ) + 1 / 2⌋₊ = whole :=
    (Nat.floor_eq_iff (by positivity)).2 ⟨by linarith, by linarith⟩
  rw [reading?, hfloor]

/-- The product is exact where it is a number of double precision. -/
theorem product_of_holds {n : ℕ} (h : Format.double.Holds ((n * unit.nanos : ℕ) : ℚ)) :
    product n unit = (n * unit.nanos : ℕ) := by
  have hn := Format.nearest_of_holds Format.double_sound (Nat.cast_nonneg n)
    (h.of_mul (by decide) unit.nanos_pos)
  rw [product, hn, ← Nat.cast_mul]
  exact Format.nearest_of_holds Format.double_sound (Nat.cast_nonneg _) h

/-- The error of rounding the number of units. -/
theorem abs_scaled_sub_le (n : ℕ) (unit : Unit) :
    |Format.double.nearest n * unit.nanos - (n * unit.nanos : ℕ)| * 2 ^ 53 ≤
      (n * unit.nanos : ℕ) := by
  have hnumber : |Format.double.nearest n - n| * 2 ^ 53 ≤ n :=
    Format.abs_nearest_natCast_sub_le (by decide) n
  have hnanos : (0 : ℚ) ≤ unit.nanos := Nat.cast_nonneg _
  push_cast
  rw [← sub_mul, abs_mul, abs_of_nonneg hnanos, mul_right_comm]
  exact mul_le_mul_of_nonneg_right hnumber hnanos

/-- The errors of the two roundings together. -/
theorem abs_product_sub_le (n : ℕ) (unit : Unit) :
    |product n unit - (n * unit.nanos : ℕ)| * 2 ^ 51 ≤ (n * unit.nanos : ℕ) := by
  have hnumber := abs_scaled_sub_le n unit
  have hproduct : |product n unit - Format.double.nearest n * unit.nanos| * 2 ^ 53 ≤
      Format.double.nearest n * unit.nanos := by
    obtain ⟨m, hm⟩ := Format.exists_nearest_eq_natCast Format.double_sound (by decide) n
    rw [product, hm, ← Nat.cast_mul]
    exact Format.abs_nearest_natCast_sub_le (by decide) _
  have htriangle := abs_sub_le (product n unit) (Format.double.nearest n * unit.nanos)
    (n * unit.nanos : ℕ)
  have hle := le_abs_self (Format.double.nearest n * unit.nanos - (n * unit.nanos : ℕ))
  have hnonneg : (0 : ℚ) ≤ (n * unit.nanos : ℕ) := Nat.cast_nonneg _
  linarith

/-! ## The greatest reading -/

namespace Unit

/-- The least number of units that reaches the bound. -/
def limit (unit : Unit) : ℕ := readingBound ⌈/⌉ unit.nanos

theorem limit_le_iff {n : ℕ} : unit.limit ≤ n ↔ readingBound ≤ n * unit.nanos := by
  rw [limit, ceilDiv_le_iff_le_mul unit.nanos_pos, mul_comm]

/-- The least number of units that reaches the bound is not rounded. -/
theorem holds_limit (unit : Unit) : Format.double.Holds unit.limit := by
  cases unit with
  | nanoseconds => exact ⟨1, 64, by decide, by decide, by norm_num [limit, nanos, readingBound]⟩
  | microseconds =>
      have hlimit : limit microseconds = 4611686018427388 * 2 ^ 2 := by decide
      exact ⟨4611686018427388, 2, by decide, by decide, by rw [hlimit]; norm_num⟩
  | milliseconds => exact Format.holds_natCast (by decide) (by decide)
  | seconds => exact Format.holds_natCast (by decide) (by decide)
  | minutes => exact Format.holds_natCast (by decide) (by decide)
  | hours => exact Format.holds_natCast (by decide) (by decide)

end Unit

/-- The product of what is below the bound is not above it. -/
theorem product_le {n : ℕ} (h : n * unit.nanos < readingBound) :
    product n unit ≤ readingBound := by
  have hbound : ((n * unit.nanos : ℕ) : ℚ) < readingBound := by exact_mod_cast h
  have hnumber := abs_scaled_sub_le n unit
  have hle := le_abs_self (Format.double.nearest n * unit.nanos - (n * unit.nanos : ℕ))
  have hnonneg := Format.double.nearest_nonneg n
  rw [readingBound_eq] at hbound ⊢
  refine Format.nearest_le_two_zpow Format.double_sound (by decide) (by positivity) ?_
  have hstep : (2 : ℚ) ^ (64 - (Format.double.digits : ℤ)) = 2 ^ 11 := by
    norm_num [Format.double]
  rw [zpow_ofNat] at hbound ⊢
  linarith

/-- The product of what reaches the bound reaches it. -/
theorem le_product {n : ℕ} (h : readingBound ≤ n * unit.nanos) :
    readingBound ≤ product n unit := by
  have hlimit : (unit.limit : ℚ) ≤ Format.double.nearest n :=
    Format.le_nearest Format.double_sound (Nat.cast_nonneg n) unit.holds_limit
      (by exact_mod_cast Unit.limit_le_iff.2 h)
  have hreaches : (readingBound : ℚ) ≤ unit.limit * unit.nanos := by
    exact_mod_cast Unit.limit_le_iff.1 le_rfl
  have hnonneg := Format.double.nearest_nonneg n
  rw [readingBound_eq] at hreaches ⊢
  refine Format.le_nearest Format.double_sound (by positivity)
    (Format.holds_two_zpow (by decide)) (hreaches.trans ?_)
  gcongr

/-- The product of what is clearly above the bound is above it. -/
theorem lt_product {n : ℕ} (h : readingBound + 2 ^ 12 < n * unit.nanos) :
    readingBound < product n unit := by
  have hbound : (readingBound : ℚ) + 2 ^ 12 + 1 ≤ (n * unit.nanos : ℕ) := by exact_mod_cast h
  have hnumber := abs_scaled_sub_le n unit
  have hle := neg_abs_le (Format.double.nearest n * unit.nanos - (n * unit.nanos : ℕ))
  rw [readingBound_eq] at hbound ⊢
  refine Format.two_zpow_lt_nearest Format.double_sound (by decide) ?_
  have hstep : (2 : ℚ) ^ (64 - (Format.double.digits : ℤ)) = 2 ^ 11 := by
    norm_num [Format.double]
  rw [zpow_ofNat] at hbound ⊢
  linarith

/-- Below the bound the product is read, and the greatest reading if it is the bound itself. -/
theorem reading?_product_of_lt {n : ℕ} (h : n * unit.nanos < readingBound) :
    ∃ d : Span, reading? (product n unit) = some d ∧
      (d : ℚ) = min (product n unit) (readingBound - 1) ∧
      |(d : ℚ) - (n * unit.nanos : ℕ)| * 2 ^ 51 ≤ (n * unit.nanos : ℕ) ∧
      (Format.double.Holds ((n * unit.nanos : ℕ) : ℚ) → d = n * unit.nanos) := by
  obtain ⟨whole, hwhole⟩ := exists_product_eq_natCast n unit
  have hle : ¬ readingBound < whole := by
    have hproduct := product_le h
    rw [hwhole] at hproduct
    exact not_lt.2 (by exact_mod_cast hproduct)
  have hgreatest : ((readingBound - 1 : ℕ) : ℚ) = readingBound - 1 :=
    Nat.cast_pred (Nat.two_pow_pos 64)
  have hcapped : ((min whole (readingBound - 1) : ℕ) : ℚ) =
      min (product n unit) (readingBound - 1) := by
    rw [hwhole, ← hgreatest]
    exact Nat.cast_min ..
  have hexact : min ((n * unit.nanos : ℕ) : ℚ) (readingBound - 1) = (n * unit.nanos : ℕ) := by
    rw [← hgreatest]
    exact min_eq_left (by exact_mod_cast Nat.le_pred_of_lt h)
  refine ⟨min whole (readingBound - 1), ?_, hcapped, ?_, fun hholds => ?_⟩
  · rw [hwhole, reading?_natCast, if_neg hle]
  · -- capping brings the product no further from the exact number
    have hcap := abs_min_sub_min_le_max (product n unit) (readingBound - 1 : ℚ)
      (n * unit.nanos : ℕ) (readingBound - 1)
    rw [hexact, sub_self, abs_zero, max_eq_left (abs_nonneg _), ← hcapped] at hcap
    exact (mul_le_mul_of_nonneg_right hcap (by norm_num)).trans (abs_product_sub_le n unit)
  · rw [product_of_holds hholds, hexact] at hcapped
    exact_mod_cast hcapped

/-- From the bound on nothing is read, unless the product is the bound itself. -/
theorem reading?_product_of_ge {n : ℕ} (h : readingBound ≤ n * unit.nanos)
    (hne : product n unit ≠ readingBound) : reading? (product n unit) = none := by
  obtain ⟨whole, hwhole⟩ := exists_product_eq_natCast n unit
  have hlt : readingBound < whole := by
    have hproduct := lt_of_le_of_ne (le_product h) hne.symm
    rw [hwhole] at hproduct
    exact_mod_cast hproduct
  rw [hwhole, reading?_natCast, if_pos hlt]

end Span

end PollingAssertions
