import LoxLexer.Number.Value
import LoxLexer.Proofs.Number.Grid
import Mathlib.Algebra.Order.Ring.Rat
import Mathlib.Tactic.FieldSimp
import Mathlib.Tactic.Linarith
import Mathlib.Tactic.Positivity

/-!
# Rounding to nearest

A ratio is measured in steps and rounded to a whole number of them, and its bits are a sum of the
two, without a look at the numbers of the format. That this is the nearest of all of them, ties
going to the even one, is **`roundsTo_ofRatio`**: all numbers but the multiples of the step are
further away than the first of these (`multiple_or_far`), so the nearest multiple is the nearest
number (`isNearestBits_grid`), also where it is the first one of the next range. Whether it is
infinite depends on the overflow alone (`infinityBits_le_iff`), as that is the middle between the
largest finite number and the next one (`units_overflow`).
-/

namespace LoxLexer

/-! ### Distances -/

/-- Of two numbers the smaller one is nearer up to the middle between them. -/
theorem abs_sub_le_abs_sub_iff {a b v : ℚ} (h : a < b) : |a - v| ≤ |b - v| ↔ 2 * v ≤ a + b := by
  rcases abs_cases (a - v) with ⟨ha, _⟩ | ⟨ha, _⟩ <;>
    rcases abs_cases (b - v) with ⟨hb, _⟩ | ⟨hb, _⟩ <;>
    rw [ha, hb] <;> constructor <;> intro <;> linarith

/-- From the middle on the larger one is nearer. -/
theorem abs_sub_le_abs_sub_iff' {a b v : ℚ} (h : a < b) : |b - v| ≤ |a - v| ↔ a + b ≤ 2 * v := by
  rcases abs_cases (a - v) with ⟨ha, _⟩ | ⟨ha, _⟩ <;>
    rcases abs_cases (b - v) with ⟨hb, _⟩ | ⟨hb, _⟩ <;>
    rw [ha, hb] <;> constructor <;> intro <;> linarith

/-- Of a number and its negative the positive one is nearer to every positive number. -/
theorem eq_zero_of_abs_neg_sub {a v : ℚ} (ha : 0 < a) (hv : 0 ≤ v) (tie : |-a - v| = |a - v|) :
    v = 0 := by
  have := (abs_sub_le_abs_sub_iff (neg_lt_self ha)).1 tie.le
  linarith

/-! ### Whole numbers -/

/-- The whole number is nearest to `q`, and even if another one is as near. -/
structure IsNearestWhole (p : ℕ) (q : ℚ) : Prop where
  /-- It is not further away than a half. -/
  half : |p - q| ≤ 1 / 2
  /-- If it is a half away, it is even. -/
  even : |p - q| = 1 / 2 → p % 2 = 0

theorem roundHalfEven_even (num : ℕ) {den : ℕ} (h : 0 < den)
    (tie : 2 * num = 2 * (roundHalfEven num den * den) + den ∨
      2 * (roundHalfEven num den * den) = 2 * num + den) : roundHalfEven num den % 2 = 0 := by
  have hd : den * (num / den) + num % den = num := Nat.div_add_mod num den
  have hm : num % den < den := Nat.mod_lt _ h
  have hc : num / den * den = den * (num / den) := Nat.mul_comm _ _
  simp only [roundHalfEven] at tie ⊢
  split at tie
  · omega
  · split at tie
    · rw [Nat.add_mul, hc] at tie; omega
    · rw [if_neg ‹_›, if_neg ‹_›]; omega

theorem roundHalfEven_mul (n : ℕ) {den : ℕ} (h : 0 < den) : roundHalfEven (n * den) den = n := by
  simp [roundHalfEven, h]

theorem isNearestWhole_roundHalfEven (num : ℕ) {den : ℕ} (h : 0 < den) :
    IsNearestWhole (roundHalfEven num den) (num / den) := by
  have positive : (0 : ℚ) < den := by exact_mod_cast h
  obtain ⟨lower, upper⟩ := roundHalfEven_near num h
  have even := roundHalfEven_even num h
  generalize roundHalfEven num den = p at lower upper even
  have apart : |(p : ℚ) - num / den| = |(p * den - num : ℚ)| / den := by
    rw [← abs_of_pos positive, ← abs_div, abs_of_pos positive]
    congr 1
    field_simp
  have lower' : (2 * num : ℚ) ≤ 2 * (p * den) + den := by exact_mod_cast lower
  have upper' : (2 * (p * den) : ℚ) ≤ 2 * num + den := by exact_mod_cast upper
  constructor
  · rw [apart, div_le_iff₀ positive, abs_le]
    constructor <;> linarith
  · intro tie
    rw [apart, div_eq_iff positive.ne', abs_eq (by positivity)] at tie
    apply even
    rcases tie with tie | tie
    · right
      have : (2 * (p * den) : ℚ) = 2 * num + den := by linarith
      exact_mod_cast this
    · left
      have : (2 * num : ℚ) = 2 * (p * den) + den := by linarith
      exact_mod_cast this

/-- Two whole numbers cannot both be nearer than a half. -/
theorem one_le_abs_sub_add {n p : ℕ} (other : n ≠ p) (q : ℚ) : 1 ≤ |n - q| + |p - q| := by
  have whole : (1 : ℚ) ≤ |(n : ℚ) - p| := by
    have : (n : ℤ) - p ≠ 0 := by omega
    exact_mod_cast Int.one_le_abs this
  rw [abs_sub_comm (p : ℚ) q]
  exact whole.trans (abs_sub_le _ _ _)

namespace IsNearestWhole

variable {p : ℕ} {q : ℚ} (h : IsNearestWhole p q)
include h

theorem nearest (n : ℕ) : |p - q| ≤ |n - q| := by
  by_cases other : n = p
  · rw [other]
  · have := one_le_abs_sub_add other q
    have := h.half
    linarith

/-- If another whole number is as near, this one is even. -/
theorem even_of_tie {n : ℕ} (other : n ≠ p) (tie : |n - q| = |p - q|) : p % 2 = 0 := by
  have := one_le_abs_sub_add other q
  have := h.half
  exact h.even (by linarith)

theorem le_of_le {n : ℕ} (below : n ≤ q) : n ≤ p := by
  by_contra passed
  have : (p : ℚ) < n := by exact_mod_cast Nat.not_le.1 passed
  have := (abs_sub_le_abs_sub_iff this).1 (h.nearest n)
  linarith

theorem le_of_ge {n : ℕ} (above : q ≤ n) : p ≤ n := by
  by_contra passed
  have : (n : ℚ) < p := by exact_mod_cast Nat.not_le.1 passed
  have := (abs_sub_le_abs_sub_iff' this).1 (h.nearest n)
  linarith

end IsNearestWhole

namespace Binary64

/-! ### The nearest bits -/

theorem cast_unitsAt_lt {a b : ℕ} (h : a < b) : (unitsAt a : ℚ) < unitsAt b := by
  exact_mod_cast unitsAt_strictMono h

theorem cast_unitsAt_le {a b : ℕ} (h : a ≤ b) : (unitsAt a : ℚ) ≤ unitsAt b := by
  exact_mod_cast unitsAt_strictMono.monotone h

/-- Of all bits, with those beyond the finite numbers, none are nearer to `r` units, and they are
even if others are as near. -/
structure IsNearestBits (bits : ℕ) (r : ℚ) : Prop where
  /-- No bits are nearer. -/
  nearest : ∀ other, |unitsAt bits - r| ≤ |unitsAt other - r|
  /-- If others are as near, the bits are even. -/
  even : ∀ other, other ≠ bits → |unitsAt other - r| = |unitsAt bits - r| → bits % 2 = 0

theorem abs_mul_step_sub (m : ℕ) (q : ℚ) (step : ℕ) :
    |((m * 2 ^ step : ℕ) : ℚ) - q * 2 ^ step| = |m - q| * 2 ^ step := by
  have : ((m * 2 ^ step : ℕ) : ℚ) - q * 2 ^ step = (m - q) * 2 ^ step := by push_cast; ring
  rw [this, abs_mul, abs_of_pos (show (0 : ℚ) < 2 ^ step by positivity)]

/-- A number is a multiple of the step, or it is further away from a value in the range of the step
than the power of two that the range begins with. -/
theorem multiple_or_far {step : ℕ} {q : ℚ} (range : step = 0 ∨ 2 ^ 52 ≤ q) (bits : ℕ) :
    (∃ point, unitsAt bits = point * 2 ^ step) ∨
      |((2 ^ 52 * 2 ^ step : ℕ) : ℚ) - q * 2 ^ step| < |unitsAt bits - q * 2 ^ step| := by
  rcases range with rfl | large
  · exact .inl ⟨unitsAt bits, by simp⟩
  rcases Nat.lt_or_ge (unitsAt bits) (2 ^ 52 * 2 ^ step) with below | above
  · right
    have below' : (unitsAt bits : ℚ) < (2 ^ 52 * 2 ^ step : ℕ) := by exact_mod_cast below
    have inside : ((2 ^ 52 * 2 ^ step : ℕ) : ℚ) ≤ q * 2 ^ step := by
      push_cast
      exact mul_le_mul_of_nonneg_right large (by positivity)
    rw [abs_of_nonpos (by linarith), abs_of_neg (by linarith)]
    linarith
  · exact .inl (exists_multiple above)

/-- **The nearest multiple of the right step is nearest among all numbers.** -/
theorem isNearestBits_grid {step point : ℕ} {q : ℚ} (grid : OnGrid step point)
    (range : step = 0 ∨ 2 ^ 52 ≤ q) (h : IsNearestWhole point q) :
    IsNearestBits (step * 2 ^ 52 + point) (q * 2 ^ step) := by
  have positive : (0 : ℚ) < 2 ^ step := by positivity
  have near : ∀ n : ℕ, |((point * 2 ^ step : ℕ) : ℚ) - q * 2 ^ step| ≤
      |((n * 2 ^ step : ℕ) : ℚ) - q * 2 ^ step| := by
    intro n
    rw [abs_mul_step_sub, abs_mul_step_sub]
    exact mul_le_mul_of_nonneg_right (h.nearest n) positive.le
  constructor
  · intro other
    rw [unitsAt_grid grid]
    rcases multiple_or_far range other with ⟨point', units⟩ | far
    · rw [units]
      exact near point'
    · exact (near (2 ^ 52)).trans far.le
  · intro other distinct tie
    rw [unitsAt_grid grid] at tie
    rcases multiple_or_far range other with ⟨point', units⟩ | far
    · rw [units, abs_mul_step_sub, abs_mul_step_sub] at tie
      have apart : point' ≠ point := by
        rintro rfl
        exact distinct (unitsAt_strictMono.injective (units.trans (unitsAt_grid grid).symm))
      have := h.even_of_tie apart (mul_right_cancel₀ positive.ne' tie)
      omega
    · exact absurd tie ((near (2 ^ 52)).trans_lt far).ne'

/-- Numbers beyond an odd one are nearest from the middle to the next one on, as this one is even.
-/
theorem IsNearestBits.lt_iff {bits odd : ℕ} {r : ℚ} (h : IsNearestBits bits r)
    (isOdd : odd % 2 = 1) : odd < bits ↔ (unitsAt odd + unitsAt (odd + 1) : ℚ) ≤ 2 * r := by
  have next := cast_unitsAt_lt (Nat.lt_succ_self odd)
  constructor
  · intro beyond
    have above := cast_unitsAt_le beyond
    have := (abs_sub_le_abs_sub_iff' (next.trans_le above)).1 (h.nearest odd)
    linarith
  · intro middle
    by_contra inside
    have below := cast_unitsAt_le (Nat.not_lt.1 inside)
    have near := (abs_sub_le_abs_sub_iff (below.trans_lt next)).1 (h.nearest (odd + 1))
    -- all are equal, so the tie goes to the odd one
    have same : (unitsAt bits : ℚ) = unitsAt odd := by linarith
    have tie : |(unitsAt (odd + 1) : ℚ) - r| = |unitsAt bits - r| := by
      apply le_antisymm _ (h.nearest (odd + 1))
      rw [abs_sub_le_abs_sub_iff' (below.trans_lt next)]
      linarith
    have := h.even (odd + 1) (by omega) tie
    have : bits = odd := unitsAt_strictMono.injective (by exact_mod_cast same)
    omega

/-! ### Rounding a ratio -/

/-- The step for a whole number of units: the numbers that are as large are multiples of it. -/
theorem spacing_range (units : ℕ) :
    (spacing units = 0 ∨ 2 ^ 52 * 2 ^ spacing units ≤ units) ∧
      units < 2 ^ 53 * 2 ^ spacing units := by
  have upper : units < 2 ^ (units.log2 + 1) := Nat.lt_log2_self
  rw [spacing]
  rcases Nat.le_total units.log2 52 with small | large
  · have : 2 ^ (units.log2 + 1) ≤ 2 ^ 53 := Nat.pow_le_pow_right (by decide) (by omega)
    rw [Nat.sub_eq_zero_of_le small]
    omega
  · obtain ⟨step, log⟩ := Nat.exists_eq_add_of_le large
    have positive : units ≠ 0 := by
      rintro rfl
      simp at large
    have lower : 2 ^ units.log2 ≤ units := Nat.log2_self_le positive
    rw [log, Nat.add_right_comm, Nat.pow_add] at upper
    rw [log, Nat.pow_add] at lower
    rw [log, Nat.add_sub_cancel_left]
    exact ⟨.inr lower, upper⟩

/-- The step that a ratio is rounded to a multiple of. -/
def ratioStep (num den : ℕ) : ℕ := spacing (num * unitsPerOne / den)

/-- The multiple of the step that a ratio is rounded to. -/
def ratioPoint (num den : ℕ) : ℕ :=
  roundHalfEven (num * unitsPerOne) (den * 2 ^ ratioStep num den)

/-- The bits of a ratio, as if the format went on beyond the finite numbers. -/
def ratioBits (num den : ℕ) : ℕ := ratioStep num den * 2 ^ 52 + ratioPoint num den

theorem ofRatio_eq (num den : ℕ) :
    ofRatio num den = ⟨UInt64.ofNat (min (ratioBits num den) infinityBits)⟩ := rfl

/-- A ratio, measured in its steps. -/
def inSteps (num den : ℕ) : ℚ := (num * unitsPerOne : ℕ) / (den * 2 ^ ratioStep num den : ℕ)

theorem inSteps_mul (num : ℕ) {den : ℕ} (h : 0 < den) :
    inSteps num den * 2 ^ ratioStep num den = num / den * unitsPerOne := by
  have : (den : ℚ) ≠ 0 := by exact_mod_cast h.ne'
  rw [inSteps]
  generalize unitsPerOne = one
  push_cast
  field_simp

theorem isNearestWhole_ratioPoint (num : ℕ) {den : ℕ} (h : 0 < den) :
    IsNearestWhole (ratioPoint num den) (inSteps num den) :=
  isNearestWhole_roundHalfEven _ (Nat.mul_pos h (Nat.two_pow_pos _))

theorem inSteps_range (num : ℕ) {den : ℕ} (h : 0 < den) :
    (ratioStep num den = 0 ∨ 2 ^ 52 ≤ inSteps num den) ∧ inSteps num den ≤ 2 ^ 53 := by
  have positive : (0 : ℚ) < (den * 2 ^ ratioStep num den : ℕ) := by
    exact_mod_cast Nat.mul_pos h (Nat.two_pow_pos _)
  obtain ⟨lower, upper⟩ := spacing_range (num * unitsPerOne / den)
  rw [← ratioStep] at lower upper
  constructor
  · refine lower.imp_right fun lower => ?_
    rw [Nat.le_div_iff_mul_le h, Nat.mul_assoc, Nat.mul_comm _ den] at lower
    rw [inSteps, le_div_iff₀ positive]
    exact_mod_cast lower
  · rw [Nat.div_lt_iff_lt_mul h, Nat.mul_assoc, Nat.mul_comm _ den] at upper
    rw [inSteps, div_le_iff₀ positive]
    exact_mod_cast upper.le

/-- The ratio is rounded to a number that the grid has. -/
theorem onGrid_ratio (num : ℕ) {den : ℕ} (h : 0 < den) :
    OnGrid (ratioStep num den) (ratioPoint num den) := by
  have nearest := isNearestWhole_ratioPoint num h
  obtain ⟨lower, upper⟩ := inSteps_range num h
  exact ⟨lower.imp_right fun large => nearest.le_of_le (by exact_mod_cast large),
    nearest.le_of_ge (by exact_mod_cast upper)⟩

/-- **A ratio gets the nearest bits.** -/
theorem isNearestBits_ratioBits (num : ℕ) {den : ℕ} (h : 0 < den) :
    IsNearestBits (ratioBits num den) (num / den * unitsPerOne) := by
  rw [← inSteps_mul num h]
  exact isNearestBits_grid (onGrid_ratio num h) (inSteps_range num h).1
    (isNearestWhole_ratioPoint num h)

/-! ### Values -/

theorem unitsPerOne_eq : unitsPerOne = 2 ^ 1074 := by decide +kernel

theorem unitsPerOne_pos : (0 : ℚ) < unitsPerOne := by
  rw [unitsPerOne_eq]
  positivity

theorem abs_value (x : Binary64) : |x.value| = x.units / unitsPerOne := by
  have : (0 : ℚ) ≤ x.units / unitsPerOne := div_nonneg (Nat.cast_nonneg _) unitsPerOne_pos.le
  unfold value signed
  split
  · rw [abs_neg, abs_of_nonneg this]
  · rw [abs_of_nonneg this]

theorem value_of_unsigned {x : Binary64} (unsigned : x.negative = false) :
    x.value = x.units / unitsPerOne := by
  rw [value, signed, unsigned, if_neg Bool.false_ne_true]

theorem value_nonneg {x : Binary64} (unsigned : x.negative = false) : 0 ≤ x.value := by
  rw [value_of_unsigned unsigned]
  exact div_nonneg (Nat.cast_nonneg _) unitsPerOne_pos.le

theorem abs_units_sub (units : ℕ) (v : ℚ) :
    |(units / unitsPerOne : ℚ) - v| * unitsPerOne = |units - v * unitsPerOne| := by
  rw [← abs_of_pos unitsPerOne_pos, ← abs_mul, abs_of_pos unitsPerOne_pos, sub_mul,
    div_mul_cancel₀ _ unitsPerOne_pos.ne']

theorem unsigned_ofNat {n : ℕ} (h : n ≤ infinityBits) :
    (⟨UInt64.ofNat n⟩ : Binary64).negative = false := by
  simp only [negative, UInt64.toNat_ofNat', Nat.pow_eq, infinityBits] at *
  simp
  omega

theorem magnitudeBits_ofNat {n : ℕ} (h : n ≤ infinityBits) :
    (⟨UInt64.ofNat n⟩ : Binary64).magnitudeBits = n := by
  simp only [magnitudeBits, UInt64.toNat_ofNat', Nat.pow_eq, infinityBits] at *
  omega

theorem fractionField_even {x : Binary64} :
    x.fractionField % 2 = 0 ↔ x.magnitudeBits % 2 = 0 := by
  rw [fractionField, Nat.pow_eq]
  omega

/-- The last multiple of a step and the next number have an odd number of half steps between them.
-/
theorem units_last (step : ℕ) :
    (unitsAt (step * 2 ^ 52 + (2 ^ 53 - 1)) + unitsAt (step * 2 ^ 52 + (2 ^ 53 - 1) + 1) : ℚ) =
      (2 ^ 54 - 1) * 2 ^ step := by
  rw [unitsAt_grid ⟨.inr (by omega), by omega⟩, Nat.add_assoc,
    unitsAt_grid ⟨.inr (by omega), by omega⟩]
  push_cast
  ring

/-- The overflow is the middle between the largest finite number and the next one, if there was
one. -/
theorem units_overflow :
    (unitsAt (infinityBits - 1) + unitsAt (infinityBits - 1 + 1) : ℚ) =
      2 * (overflow * unitsPerOne) := by
  have last : infinityBits - 1 = 2045 * 2 ^ 52 + (2 ^ 53 - 1) := rfl
  have above : 2 * ((2 : ℚ) ^ 1024 * 2 ^ 1074) = 2 ^ 54 * 2 ^ 2045 := by
    rw [← pow_add, ← pow_add, ← pow_succ']
  have below : 2 * ((2 : ℚ) ^ 970 * 2 ^ 1074) = 2 ^ 2045 := by rw [← pow_add, ← pow_succ']
  have unit : (unitsPerOne : ℚ) = 2 ^ 1074 := by rw [unitsPerOne_eq, Nat.cast_pow, Nat.cast_two]
  rw [last, units_last, overflow, unit, sub_mul (2 ^ 1024 : ℚ), mul_sub, above, below, sub_mul,
    one_mul]

/-- The bits of a ratio are beyond those of the finite numbers from the overflow on. -/
theorem infinityBits_le_iff {bits : ℕ} {v : ℚ} (h : IsNearestBits bits (v * unitsPerOne)) :
    infinityBits ≤ bits ↔ overflow ≤ v := by
  have last : infinityBits - 1 + 1 = infinityBits := rfl
  have middle := h.lt_iff (show (infinityBits - 1) % 2 = 1 from rfl)
  rwa [← Nat.succ_le_iff, Nat.succ_eq_add_one, units_overflow,
    mul_le_mul_iff_of_pos_left two_pos, mul_le_mul_iff_of_pos_right unitsPerOne_pos, last] at middle

/-- Another value that is as near is not just the negative, as zero would be nearer. -/
theorem magnitudeBits_ne_of_tie {x y : Binary64} {v : ℚ}
    (h : IsNearestBits x.magnitudeBits (v * unitsPerOne)) (unsigned : x.negative = false)
    (positive : 0 ≤ v) (tie : |y.value - v| = |x.value - v|) (distinct : y.value ≠ x.value) :
    y.magnitudeBits ≠ x.magnitudeBits := by
  intro same
  have size : |y.value| = |x.value| := by rw [abs_value, abs_value, units_eq, units_eq, same]
  have flipped := (abs_eq_abs.1 size).resolve_left distinct
  have above : 0 < x.value := by
    rw [flipped, ne_eq, neg_eq_self] at distinct
    exact lt_of_le_of_ne (value_nonneg unsigned) (Ne.symm distinct)
  rw [flipped] at tie
  have least := h.nearest 0
  rw [eq_zero_of_abs_neg_sub above positive tie, zero_mul, sub_zero, sub_zero, ← units_eq,
    abs_of_nonneg (Nat.cast_nonneg _), show unitsAt 0 = 0 from rfl, Nat.cast_zero, abs_zero]
    at least
  rw [value_of_unsigned unsigned, le_antisymm least (Nat.cast_nonneg _), zero_div] at above
  exact lt_irrefl _ above

theorem IsNearestBits.isNearest {x : Binary64} {v : ℚ}
    (h : IsNearestBits x.magnitudeBits (v * unitsPerOne)) (finite : x.isFinite = true)
    (unsigned : x.negative = false) (positive : 0 ≤ v) : x.IsNearest v := by
  have near (y : Binary64) : |x.value - v| ≤ |(|y.value| - v)| := by
    rw [abs_value, value_of_unsigned unsigned,
      ← mul_le_mul_iff_of_pos_right unitsPerOne_pos, abs_units_sub, abs_units_sub]
    exact h.nearest y.magnitudeBits
  have sign (y : Binary64) : |(|y.value| - v)| ≤ |y.value - v| := by
    have := abs_abs_sub_abs_le y.value v
    rwa [abs_of_nonneg positive] at this
  constructor
  case finite => exact finite
  case sign => simp [unsigned, positive]
  case nearest => exact fun y _ => (near y).trans (sign y)
  case even =>
    intro y _ tie distinct
    have other := magnitudeBits_ne_of_tie h unsigned positive tie distinct
    have tie' : |(|y.value| - v)| = |x.value - v| := le_antisymm ((sign y).trans tie.le) (near y)
    have units := congrArg (· * (unitsPerOne : ℚ)) tie'
    simp only [abs_value, value_of_unsigned unsigned, abs_units_sub] at units
    exact fractionField_even.2 (h.even y.magnitudeBits other units)

/-- **Rounding a ratio is rounding to nearest, ties to even.** -/
theorem roundsTo_ofRatio (num : ℕ) {den : ℕ} (h : 0 < den) :
    RoundsTo (num / den) (ofRatio num den) := by
  have positive : (0 : ℚ) ≤ num / den := by positivity
  have nearest := isNearestBits_ratioBits num h
  have above := infinityBits_le_iff nearest
  rw [ofRatio_eq]
  have within : min (ratioBits num den) infinityBits ≤ infinityBits := Nat.min_le_right _ _
  have bits := magnitudeBits_ofNat within
  have unsigned := unsigned_ofNat within
  generalize (⟨UInt64.ofNat (min (ratioBits num den) infinityBits)⟩ : Binary64) = x at *
  rcases Nat.lt_or_ge (ratioBits num den) infinityBits with inside | beyond
  · rw [Nat.min_eq_left inside.le] at bits
    refine .finite ?_ ?_
    · rw [abs_of_nonneg positive, ← not_le, ← above, not_le]
      exact inside
    · rw [← bits] at nearest
      exact nearest.isNearest (by simpa [isFinite, bits] using inside) unsigned positive
  · rw [Nat.min_eq_right beyond] at bits
    refine .infinite ?_ ?_ ?_
    · rw [abs_of_nonneg positive, ← above]
      exact beyond
    · simpa [isInfinite] using bits
    · simp [unsigned, positive]

end Binary64

end LoxLexer
