import LoxLexer.Proofs.Number.Rounding
import Mathlib.Tactic.ByContra

/-!
# What rounds to a number

A value rounds to one number only, the one that is computed (**`roundsTo_ratio_iff`**), for two even
numbers have others between them. The values that round to a finite number make up an interval
(**`RoundsTo.between`**) around the value of the number (`roundsTo_value`), and the interval of the
number with the other sign is its mirror image (`roundsTo_signed_iff`). No whole number is in the
interval of a number that is not whole (**`isWhole_of_roundsTo`**).
-/

namespace LoxLexer

namespace Binary64

/-! ### Numbers by their sign and magnitude -/

theorem ext_magnitude {x y : Binary64} (sign : x.negative = y.negative)
    (magnitude : x.magnitudeBits = y.magnitudeBits) : x = y := by
  have hx := x.bits.toNat_lt
  have hy := y.bits.toNat_lt
  rw [negative, negative, decide_eq_decide] at sign
  simp only [magnitudeBits, Nat.pow_eq] at sign magnitude
  have same : x.bits.toNat = y.bits.toNat := by omega
  cases x
  cases y
  congr
  exact UInt64.toNat_inj.1 same

theorem isFinite_iff {x : Binary64} : x.isFinite = true ↔ x.magnitudeBits < infinityBits := by
  rw [isFinite, decide_eq_true_iff]

/-! ### One number for each value -/

/-- What lies between two numbers is nearer than one of them. -/
theorem not_nearest_of_between {a m b : ℕ} {r : ℚ} (lower : a < m) (upper : m < b)
    (ha : |unitsAt a - r| ≤ |unitsAt m - r|) : ¬ |unitsAt b - r| ≤ |unitsAt m - r| := by
  intro hb
  have lower' := cast_unitsAt_lt lower
  have upper' := cast_unitsAt_lt upper
  rw [abs_sub_le_abs_sub_iff lower'] at ha
  rw [abs_sub_le_abs_sub_iff' upper'] at hb
  linarith

/-- Two even bits cannot be equally near, as others lie between them. -/
theorem IsNearestBits.eq_of_tie {bits other : ℕ} {r : ℚ} (h : IsNearestBits bits r)
    (even : other % 2 = 0) (tie : |unitsAt other - r| = |unitsAt bits - r|) : other = bits := by
  by_contra distinct
  have even' := h.even other distinct tie
  have nearest' (m : ℕ) : |unitsAt other - r| ≤ |unitsAt m - r| := tie.trans_le (h.nearest m)
  rcases Nat.lt_or_gt_of_ne distinct with below | above
  · exact not_nearest_of_between (Nat.lt_succ_self other) (by omega) (nearest' _) (h.nearest _)
  · exact not_nearest_of_between (Nat.lt_succ_self bits) (by omega) (h.nearest _) (nearest' _)

theorem IsNearest.magnitudeBits_eq {x : Binary64} {v : ℚ} (h : x.IsNearest v) (positive : 0 ≤ v)
    {bits : ℕ} (nearest : IsNearestBits bits (v * unitsPerOne)) (inside : bits < infinityBits) :
    x.magnitudeBits = bits := by
  obtain ⟨y, unsigned, rfl⟩ : ∃ y : Binary64, y.negative = false ∧ y.magnitudeBits = bits :=
    ⟨⟨UInt64.ofNat bits⟩, unsigned_ofNat inside.le, magnitudeBits_ofNat inside.le⟩
  have nearest' := nearest.isNearest (isFinite_iff.2 inside) unsigned positive
  have unsigned' : x.negative = false := by
    rw [← Bool.not_eq_true, h.sign, not_lt]
    exact positive
  have tie : |x.value - v| = |y.value - v| :=
    le_antisymm (h.nearest y nearest'.finite) (nearest'.nearest x h.finite)
  have tie' := congrArg (· * (unitsPerOne : ℚ)) tie
  simp only [value_of_unsigned unsigned, value_of_unsigned unsigned', abs_units_sub] at tie'
  by_cases same : y.value = x.value
  · rw [value_of_unsigned unsigned, value_of_unsigned unsigned',
      div_left_inj' unitsPerOne_pos.ne', Nat.cast_inj] at same
    exact unitsAt_strictMono.injective same.symm
  · exact nearest.eq_of_tie (fractionField_even.1 (h.even y nearest'.finite tie.symm same)) tie'

/-- **A value rounds to one number only, and that is the one the ratio is rounded to.** -/
theorem roundsTo_ratio_iff (num : ℕ) {den : ℕ} (h : 0 < den) {x : Binary64} :
    RoundsTo (num / den) x ↔ ofRatio num den = x := by
  refine ⟨fun rounds => ?_, fun same => same ▸ roundsTo_ofRatio num h⟩
  have positive : (0 : ℚ) ≤ num / den := by positivity
  have nearest := isNearestBits_ratioBits num h
  have above := infinityBits_le_iff nearest
  have within : min (ratioBits num den) infinityBits ≤ infinityBits := Nat.min_le_right _ _
  have unsigned {sign : Bool} (negative : sign = true ↔ (num / den : ℚ) < 0) : sign = false := by
    rw [← Bool.not_eq_true, negative, not_lt]
    exact positive
  rw [ofRatio_eq]
  apply ext_magnitude
  · rw [unsigned_ofNat within]
    cases rounds with
    | finite _ nearest' => exact (unsigned nearest'.sign).symm
    | infinite _ _ sign => exact (unsigned sign).symm
  · rw [magnitudeBits_ofNat within]
    cases rounds with
    | finite below nearest' =>
      rw [abs_of_nonneg positive, ← not_le, ← above, not_le] at below
      rw [nearest'.magnitudeBits_eq positive nearest below, Nat.min_eq_left below.le]
    | infinite beyond infinite _ =>
      rw [abs_of_nonneg positive, ← above] at beyond
      rw [isInfinite, decide_eq_true_iff] at infinite
      rw [Nat.min_eq_right beyond, infinite]

/-- The bits of a finite number are those of every ratio that rounds to it. -/
theorem magnitudeBits_of_roundsTo {x : Binary64} (finite : x.isFinite = true) {num den : ℕ}
    (positive : 0 < den) (h : RoundsTo (num / den) x) : x.magnitudeBits = ratioBits num den := by
  have bits : x.magnitudeBits = min (ratioBits num den) infinityBits := by
    rw [← (roundsTo_ratio_iff num positive).1 h, ofRatio_eq,
      magnitudeBits_ofNat (Nat.min_le_right _ _)]
  rw [isFinite_iff] at finite
  omega

/-! ### The values that round to a number -/

/-- What lies between two values that a number is nearest to is nearest to it as well. -/
theorem IsNearest.between {x : Binary64} {u v w : ℚ} (hu : x.IsNearest u) (hw : x.IsNearest w)
    (lower : u ≤ v) (upper : v ≤ w) : x.IsNearest v := by
  constructor
  case finite => exact hu.finite
  case sign =>
    constructor
    · exact fun negative => upper.trans_lt (hw.sign.1 negative)
    · exact fun negative => hu.sign.2 (lower.trans_lt negative)
  case nearest =>
    intro y finite
    rcases lt_trichotomy x.value y.value with order | same | order
    · rw [abs_sub_le_abs_sub_iff order]
      have := (abs_sub_le_abs_sub_iff order).1 (hw.nearest y finite)
      linarith
    · rw [same]
    · rw [abs_sub_le_abs_sub_iff' order]
      have := (abs_sub_le_abs_sub_iff' order).1 (hu.nearest y finite)
      linarith
  case even =>
    intro y finite tie distinct
    -- the middle to the other number is the value at that end
    rcases lt_or_gt_of_ne distinct with order | order
    · have near := (abs_sub_le_abs_sub_iff order).1 tie.le
      have end' := (abs_sub_le_abs_sub_iff' order).1 (hu.nearest y finite)
      obtain rfl : u = v := by linarith
      exact hu.even y finite tie distinct
    · have near := (abs_sub_le_abs_sub_iff' order).1 tie.le
      have end' := (abs_sub_le_abs_sub_iff order).1 (hw.nearest y finite)
      obtain rfl : v = w := by linarith
      exact hw.even y finite tie distinct

/-- Only the infinities are infinite. -/
theorem RoundsTo.isNearest {x : Binary64} {v : ℚ} (h : RoundsTo v x) (finite : x.isFinite = true) :
    |v| < overflow ∧ x.IsNearest v := by
  cases h with
  | finite below nearest => exact ⟨below, nearest⟩
  | infinite _ infinite _ =>
    rw [isInfinite, decide_eq_true_iff] at infinite
    rw [isFinite, infinite] at finite
    simp at finite

theorem RoundsTo.isNaN {x : Binary64} {v : ℚ} (h : RoundsTo v x) : x.isNaN = false := by
  rw [Binary64.isNaN, decide_eq_false_iff_not, not_lt]
  cases h with
  | finite _ nearest => exact (isFinite_iff.1 nearest.finite).le
  | infinite _ infinite _ => exact (of_decide_eq_true infinite).le

theorem RoundsTo.isInfinite_iff {x : Binary64} {v : ℚ} (h : RoundsTo v x) :
    x.isInfinite = true ↔ overflow ≤ |v| := by
  cases h with
  | finite below nearest =>
    have short := isFinite_iff.1 nearest.finite
    rw [isInfinite, decide_eq_true_iff]
    exact iff_of_false short.ne below.not_ge
  | infinite beyond infinite _ => exact iff_of_true infinite beyond

/-- **The values that round to a finite number make up an interval.** -/
theorem RoundsTo.between {x : Binary64} {u v w : ℚ} (finite : x.isFinite = true)
    (hu : RoundsTo u x) (hw : RoundsTo w x) (lower : u ≤ v) (upper : v ≤ w) : RoundsTo v x := by
  obtain ⟨belowU, nearestU⟩ := hu.isNearest finite
  obtain ⟨belowW, nearestW⟩ := hw.isNearest finite
  rw [abs_lt] at belowU belowW
  refine .finite ?_ (nearestU.between nearestW lower upper)
  rw [abs_lt]
  constructor <;> linarith

theorem isNearestBits_unitsAt (bits : ℕ) : IsNearestBits bits (unitsAt bits) := by
  constructor
  · intro other
    rw [sub_self, abs_zero]
    exact abs_nonneg _
  · intro other distinct tie
    rw [sub_self, abs_zero, abs_eq_zero, sub_eq_zero, Nat.cast_inj] at tie
    exact absurd (unitsAt_strictMono.injective tie) distinct

/-- **A finite number without a sign rounds to itself.** -/
theorem roundsTo_value {x : Binary64} (finite : x.isFinite = true)
    (unsigned : x.negative = false) : RoundsTo x.value x := by
  have nearest : IsNearestBits x.magnitudeBits (x.value * unitsPerOne) := by
    rw [value_of_unsigned unsigned, div_mul_cancel₀ _ unitsPerOne_pos.ne']
    exact isNearestBits_unitsAt _
  have positive := value_nonneg unsigned
  refine .finite ?_ (nearest.isNearest finite unsigned positive)
  rw [abs_of_nonneg positive, ← not_le, ← infinityBits_le_iff nearest, not_le]
  exact isFinite_iff.1 finite

/-- Multiples of a power of two, rounded to multiples of another, stay multiples of the first. -/
theorem pow_dvd_roundHalfEven (n one step : ℕ) :
    2 ^ one ∣ roundHalfEven (n * 2 ^ one) (2 ^ step) * 2 ^ step := by
  rcases Nat.le_total one step with coarse | fine
  · exact (Nat.pow_dvd_pow 2 coarse).mul_left _
  · obtain ⟨more, rfl⟩ := Nat.exists_eq_add_of_le' fine
    rw [Nat.pow_add, ← Nat.mul_assoc, roundHalfEven_mul _ (Nat.two_pow_pos _), Nat.mul_assoc]
    exact Nat.dvd_mul_left _ _

theorem unitsPerOne_dvd_ratio (n : ℕ) : unitsPerOne ∣ unitsAt (ratioBits n 1) := by
  rw [ratioBits, unitsAt_grid (onGrid_ratio n Nat.one_pos), ratioPoint, unitsPerOne_eq, Nat.one_mul]
  exact pow_dvd_roundHalfEven _ _ _

/-- **Whole numbers round to whole numbers.** -/
theorem isWhole_of_roundsTo {x : Binary64} (finite : x.isFinite = true) {n : ℕ}
    (h : RoundsTo n x) : x.isWhole = true := by
  have bits : x.magnitudeBits = ratioBits n 1 :=
    magnitudeBits_of_roundsTo finite Nat.one_pos (by simpa using h)
  rw [isWhole, decide_eq_true_iff, units_eq, bits]
  exact Nat.mod_eq_zero_of_dvd (unitsPerOne_dvd_ratio n)

/-! ### The other sign -/

theorem signed_not (minus : Bool) (v : ℚ) : signed (!minus) v = -signed minus v := by
  cases minus <;> simp [signed]

theorem abs_signed_sub_signed (minus : Bool) (v w : ℚ) :
    |signed minus v - signed minus w| = |v - w| := by
  cases minus
  case false => simp [signed]
  case true => rw [signed, signed, if_pos rfl, if_pos rfl, neg_sub_neg, abs_sub_comm]

/-- The number with the other sign bit. -/
def opposite (x : Binary64) : Binary64 :=
  ⟨UInt64.ofNat (x.magnitudeBits + if x.negative then 0 else Nat.pow 2 63)⟩

theorem negative_opposite (x : Binary64) : x.opposite.negative = !x.negative := by
  have := x.magnitudeBits_lt
  rw [opposite, negative]
  cases x.negative <;> simp only [UInt64.toNat_ofNat', Nat.pow_eq] at * <;> simp <;> omega

theorem magnitudeBits_opposite (x : Binary64) : x.opposite.magnitudeBits = x.magnitudeBits := by
  have := x.magnitudeBits_lt
  rw [opposite, magnitudeBits]
  cases x.negative <;> simp only [UInt64.toNat_ofNat', Nat.pow_eq] at * <;> simp <;> omega

theorem opposite_opposite (x : Binary64) : x.opposite.opposite = x :=
  ext_magnitude (by simp [negative_opposite]) (by simp [magnitudeBits_opposite])

theorem value_opposite (x : Binary64) : x.opposite.value = -x.value := by
  rw [value, value, negative_opposite, units_eq, units_eq, magnitudeBits_opposite]
  exact signed_not _ _

theorem isFinite_opposite (x : Binary64) : x.opposite.isFinite = x.isFinite := by
  rw [isFinite, isFinite, magnitudeBits_opposite]

theorem RoundsTo.opposite {x : Binary64} {v : ℚ} (h : RoundsTo v x) (nonzero : v ≠ 0) :
    RoundsTo (-v) x.opposite := by
  have sign : (x.negative = true ↔ v < 0) → (x.opposite.negative = true ↔ -v < 0) := by
    intro sign
    rw [negative_opposite, Bool.not_eq_true', ← Bool.not_eq_true, sign, not_lt, neg_lt_zero]
    exact ⟨fun le => lt_of_le_of_ne le nonzero.symm, le_of_lt⟩
  have mirrored : ∀ y : Binary64, |y.value - -v| = |y.opposite.value - v| := by
    intro y
    rw [value_opposite, ← abs_neg]
    congr 1
    ring
  cases h with
  | finite below nearest =>
    refine .finite (by rwa [abs_neg]) ⟨?_, sign nearest.sign, ?_, ?_⟩
    · rw [isFinite_opposite]
      exact nearest.finite
    · intro y finite
      rw [mirrored, mirrored, opposite_opposite]
      exact nearest.nearest _ (by rwa [isFinite_opposite])
    · intro y finite tie distinct
      rw [mirrored, mirrored, opposite_opposite] at tie
      rw [fractionField_even, magnitudeBits_opposite, ← fractionField_even]
      refine nearest.even _ (by rwa [isFinite_opposite]) tie fun same => distinct ?_
      rw [value_opposite, ← same, value_opposite, neg_neg]
  | infinite beyond infinite sign' =>
    refine .infinite (by rwa [abs_neg]) ?_ (sign sign')
    rw [isInfinite, decide_eq_true_iff] at infinite ⊢
    rw [magnitudeBits_opposite, infinite]

/-! ### Numbers without their signs -/

theorem negative_abs (x : Binary64) : x.abs.negative = false := by
  have := x.magnitudeBits_lt
  simp only [negative, abs, UInt64.toNat_ofNat', Nat.pow_eq] at *
  simp
  omega

theorem isFinite_abs (x : Binary64) : x.abs.isFinite = x.isFinite := by
  rw [isFinite, isFinite, magnitudeBits_abs]

theorem units_abs (x : Binary64) : x.abs.units = x.units := by
  rw [units_eq, units_eq, magnitudeBits_abs]

theorem value_abs (x : Binary64) : x.abs.value = x.units / unitsPerOne := by
  rw [value_of_unsigned x.negative_abs, units_abs]

theorem roundsTo_value_abs {x : Binary64} (finite : x.isFinite = true) :
    RoundsTo x.abs.value x.abs :=
  roundsTo_value (x.isFinite_abs ▸ finite) x.negative_abs

theorem RoundsTo.negative_iff {x : Binary64} {v : ℚ} (h : RoundsTo v x) :
    x.negative = true ↔ v < 0 := by
  cases h with
  | finite _ nearest => exact nearest.sign
  | infinite _ _ sign => exact sign

theorem abs_of_unsigned {x : Binary64} (unsigned : x.negative = false) : x.abs = x :=
  ext_magnitude (by rw [negative_abs, unsigned]) x.magnitudeBits_abs

theorem abs_of_negative {x : Binary64} (negative : x.negative = true) : x.abs = x.opposite := by
  refine ext_magnitude ?_ (by rw [magnitudeBits_abs, magnitudeBits_opposite])
  rw [negative_abs, negative_opposite, negative, Bool.not_true]

/-- What rounds to a number has its sign, and rounds to the number without the sign but for it. -/
theorem roundsTo_signed_iff {x : Binary64} {minus : Bool} {v : ℚ} (positive : 0 < v) :
    RoundsTo (signed minus v) x ↔ x.negative = minus ∧ RoundsTo v x.abs := by
  cases minus
  case false =>
    rw [signed, if_neg Bool.false_ne_true]
    constructor
    · intro h
      have unsigned : x.negative = false := by
        rw [← Bool.not_eq_true, h.negative_iff, not_lt]
        exact positive.le
      exact ⟨unsigned, (abs_of_unsigned unsigned).symm ▸ h⟩
    · rintro ⟨unsigned, h⟩
      rwa [abs_of_unsigned unsigned] at h
  case true =>
    rw [signed, if_pos rfl]
    constructor
    · intro h
      have negative : x.negative = true := h.negative_iff.2 (neg_neg_of_pos positive)
      have := h.opposite (neg_ne_zero.2 positive.ne')
      rw [neg_neg, ← abs_of_negative negative] at this
      exact ⟨negative, this⟩
    · rintro ⟨negative, h⟩
      rw [abs_of_negative negative] at h
      have := h.opposite positive.ne'
      rwa [opposite_opposite] at this

theorem abs_signed_sub (x : Binary64) (v : ℚ) :
    |signed x.negative v - x.value| = |v - x.abs.value| := by
  rw [value_abs, value]
  exact abs_signed_sub_signed _ _ _

end Binary64

end LoxLexer
