import LoxLexer.Proofs.Number.Digits
import LoxLexer.Proofs.Number.Shortest
import Mathlib.Data.Nat.Factorization.Basic

/-!
# The fewest digits

The search is for the fewest places, but what it finds also has the fewest digits that read back,
and is the nearest decimal with so many: **`isShortest_shortest`**. Among the decimals with the
fewest places there is no power of ten, which would do with fewer places, so all have as many digits
(`HasFewestPlaces.length_le`). One with more places has their digits and others behind them
(`HasFewestPlaces.length_le_finer`), unless it lies below the least of them. Then that is a one and
the other may be a single digit as well, but it is too far away to be nearer: for a one to be
rounded down as far as to a nine on the next place, the format would need numbers that it does not
have (**`value_ge_of_power`**).
-/

namespace LoxLexer

/-! ### Zeros at the end -/

theorem Decimal.significant_mul_ten_pow {n : ℕ} (last : n % 10 ≠ 0) (zeros places : ℕ) :
    significant ⟨n * 10 ^ zeros, places⟩ = (Nat.toDigits 10 n).length := by
  have positive : 0 < n := Nat.pos_of_ne_zero (by rintro rfl; exact last rfl)
  have ends : ∀ c ∈ (Nat.toDigits 10 n).reverse.head?, (c == '0') = false := by
    rw [List.head?_reverse, getLast?_toDigits]
    rintro c ⟨rfl⟩
    rwa [beq_eq_false_iff_ne, ne_eq, Nat.digitChar_eq_zero]
  rw [significant, toDigits_mul_ten_pow positive, List.reverse_append, List.reverse_replicate,
    dropWhile_append_of_head (by simp) ends, List.length_reverse]

namespace Binary64

/-! ### One digit -/

/-- A number of units between three halves of a power of ten and forty nineteenths of it, divided by
a power of ten, is not rounded down to a few units by more than a twentieth. -/
theorem le_of_few_units {one units places : ℕ} (power : ℕ) (least : 3 * 10 ^ power < 2 * one)
    (most : 19 * one < 40 * 10 ^ power) (positive : 0 < units) (few : units ≤ 9)
    (rounded : 2 * one ≤ (2 * units + 1) * 10 ^ places) :
    19 * one ≤ 20 * units * 10 ^ places := by
  have upper : (2 * units + 1) * 10 ^ places ≤ 19 * 10 ^ places :=
    Nat.mul_le_mul_right _ (by omega)
  have lower : 20 * 10 ^ places ≤ 20 * units * 10 ^ places :=
    Nat.mul_le_mul_right _ (by omega)
  rcases lt_trichotomy places power with fewer | rfl | more
  · have : 10 ^ places * 10 ≤ 10 ^ power := by
      rw [← Nat.pow_succ]
      exact Nat.pow_le_pow_right (by decide) fewer
    omega
  · rcases Nat.lt_or_ge units 2 with one' | two
    · obtain rfl : units = 1 := by omega
      omega
    · have : 40 * 10 ^ places ≤ 20 * units * 10 ^ places := Nat.mul_le_mul_right _ (by omega)
      omega
  · have : 10 ^ power * 10 ≤ 10 ^ places := by
      rw [← Nat.pow_succ]
      exact Nat.pow_le_pow_right (by decide) more
    omega

variable {x : Binary64} (finite : x.isFinite = true) (fraction : x.isWhole = false)

include finite in
/-- A ratio that is rounded down lies at most half a step above the number. -/
theorem exists_step {num den : ℕ} (positive : 0 < den) (h : RoundsTo (num / den) x.abs) :
    ∃ step point, OnGrid step point ∧ x.units = point * 2 ^ step ∧
      2 * (num * unitsPerOne) ≤ (2 * point + 1) * (2 ^ step * den) := by
  have bits : x.magnitudeBits = ratioBits num den :=
    x.magnitudeBits_abs ▸ magnitudeBits_of_roundsTo (x.isFinite_abs ▸ finite) positive h
  have nearest := isNearestBits_ratioBits num positive
  rw [← bits] at nearest
  obtain ⟨step, point, grid, this, next⟩ := exists_grid x.magnitudeBits
  have units : x.units = point * 2 ^ step := by rw [units_eq, grid, unitsAt_grid this]
  have above : unitsAt (x.magnitudeBits + 1) = (point + 1) * 2 ^ step := by
    rw [grid, Nat.add_assoc, unitsAt_grid next]
  refine ⟨step, point, this, units, ?_⟩
  have rounded := nearest.nearest (x.magnitudeBits + 1)
  have positive' : (0 : ℚ) < den := by exact_mod_cast positive
  rw [abs_sub_le_abs_sub_iff (cast_unitsAt_lt (Nat.lt_succ_self _)), ← units_eq, above, units,
    div_mul_eq_mul_div, ← mul_div_assoc, div_le_iff₀ positive'] at rounded
  have : 2 * (num * unitsPerOne) ≤ (point * 2 ^ step + (point + 1) * 2 ^ step) * den := by
    exact_mod_cast rounded
  linarith

include fraction in
theorem units_pos : 0 < x.units := by
  rw [Nat.pos_iff_ne_zero]
  intro zero
  rw [isWhole, zero, Nat.zero_mod, decide_eq_false_iff_not] at fraction
  exact fraction rfl

include finite fraction

/-- **A power of ten is not rounded down by more than a twentieth.** Only down to a few units could
it be rounded so far, and none of these has a power of ten there. -/
theorem value_ge_of_power {places : ℕ} (h : RoundsTo (Decimal.value ⟨1, places⟩) x.abs) :
    19 * Decimal.value ⟨1, places⟩ ≤ 20 * x.abs.value := by
  have positive : 0 < 10 ^ places := Nat.pow_pos (by decide)
  have positive' : (0 : ℚ) < (10 ^ places : ℕ) := by exact_mod_cast positive
  have ratio : Decimal.value ⟨1, places⟩ = (1 : ℕ) / (10 ^ places : ℕ) := by simp [Decimal.value]
  rw [ratio] at h ⊢
  obtain ⟨step, point, grid, units, rounded⟩ := exists_step finite positive h
  rw [value_abs, ← mul_div_assoc, ← mul_div_assoc, div_le_div_iff₀ positive' unitsPerOne_pos,
    Nat.cast_one, mul_one]
  suffices 19 * unitsPerOne ≤ 20 * x.units * 10 ^ places by exact_mod_cast this
  rcases Nat.lt_or_ge 9 point with large | few
  · -- half a step is at most a twentieth of ten steps
    have scale : 10 * (2 ^ step * 10 ^ places) ≤ point * (2 ^ step * 10 ^ places) :=
      Nat.mul_le_mul_right _ large
    rw [units]
    linarith
  · -- so few steps are there of the smallest ones only
    obtain rfl : step = 0 := by
      have := grid.lower
      omega
    obtain rfl : point = x.units := by simpa using units.symm
    refine le_of_few_units 323 (by decide +kernel) (by decide +kernel)
      (units_pos fraction) few ?_
    linarith

/-! ### Fewer digits -/

/-- The decimal has fewer digits than the other one, or as many and is as near. -/
def Prefers (x : Binary64) (d other : Decimal) : Prop :=
  d.significant < other.significant ∨ d.significant = other.significant ∧
    |d.value - x.abs.value| ≤ |other.value - x.abs.value|

/-- A decimal that reads back has the value of one without zeros at the end. -/
theorem exists_trimmed {other : Decimal} (h : RoundsTo other.value x.abs) :
    ∃ digits places, other.value = Decimal.value ⟨digits, places⟩ ∧
      other.significant = (Nat.toDigits 10 digits).length := by
  obtain ⟨all, places⟩ := other
  have nonzero : all ≠ 0 := by
    rintro rfl
    have zero : Decimal.value ⟨0, places⟩ = Decimal.value ⟨0, 0⟩ := by simp [Decimal.value]
    exact absurd (places_pos_of_roundsTo finite fraction (zero ▸ h)) (lt_irrefl 0)
  obtain ⟨zeros, digits, last, rfl⟩ := Nat.exists_eq_pow_mul_and_not_dvd nonzero 10 (by decide)
  have last' : digits % 10 ≠ 0 := fun zero => last (Nat.dvd_of_mod_eq_zero zero)
  rw [Nat.mul_comm] at h ⊢
  have significant := Decimal.significant_mul_ten_pow last' zeros places
  rcases Nat.lt_or_ge places zeros with whole | fine
  · obtain ⟨rest, rfl⟩ := Nat.exists_eq_add_of_le' whole.le
    have none := Decimal.value_mul_ten_pow (digits * 10 ^ rest) 0 places
    rw [Nat.mul_assoc, ← Nat.pow_add, Nat.zero_add] at none
    rw [none] at h
    exact absurd (places_pos_of_roundsTo finite fraction h) (lt_irrefl 0)
  · obtain ⟨rest, rfl⟩ := Nat.exists_eq_add_of_le' fine
    exact ⟨digits, rest, Decimal.value_mul_ten_pow _ _ _, significant⟩

namespace HasFewestPlaces

variable {d : Decimal} (fewest : x.HasFewestPlaces d)
include fewest

/-- All decimals with the fewest places that read back have as many digits, as no power of ten lies
among them. -/
theorem length_le {a b : ℕ} (ha : RoundsTo (Decimal.value ⟨a, d.places⟩) x.abs)
    (hb : RoundsTo (Decimal.value ⟨b, d.places⟩) x.abs) :
    (Nat.toDigits 10 a).length ≤ (Nat.toDigits 10 b).length := by
  by_contra more
  obtain ⟨k, positive, below, above⟩ := exists_pow_of_length_lt (Nat.not_le.1 more)
  have power : RoundsTo (Decimal.value ⟨10 ^ k, d.places⟩) x.abs :=
    hb.between (x.isFinite_abs ▸ finite) ha ((Decimal.value_le_value_iff _).2 below.le)
      ((Decimal.value_le_value_iff _).2 above)
  exact fewest.mod_ten_ne_zero finite fraction power (pow_ten_mod positive)

/-- A single digit with more places lies so far below the least decimal with fewer that it is not
nearer. -/
theorem near_of_single_digit {digits more : ℕ} (single : digits < 10) (positive : 0 < more)
    (one : RoundsTo (Decimal.value ⟨1, d.places⟩) x.abs) :
    |d.value - x.abs.value| ≤ |Decimal.value ⟨digits, d.places + more⟩ - x.abs.value| := by
  refine (fewest.nearest 1 one).trans ?_
  have close := value_ge_of_power finite fraction one
  have above : 0 < Decimal.value ⟨1, d.places⟩ := by
    simp only [Decimal.value]
    positivity
  have below : 10 * Decimal.value ⟨digits, d.places + more⟩ ≤ 9 * Decimal.value ⟨1, d.places⟩ := by
    have : digits * 10 ≤ 1 * 9 * 10 ^ more := by
      have := Nat.pow_le_pow_right (show 0 < 10 by decide) positive
      omega
    have order := (Decimal.value_le_value_iff (d.places + more)).2 this
    rw [Decimal.value_mul_ten_pow, Decimal.value_mul, Decimal.value_mul] at order
    exact_mod_cast order
  rw [abs_sub_le_abs_sub_iff' (by linarith)]
  linarith

/-- With more places a decimal that reads back has more digits, or has a single one as well and is
not nearer. -/
theorem length_le_finer {digits more : ℕ} (positive : 0 < more)
    (h : RoundsTo (Decimal.value ⟨digits, d.places + more⟩) x.abs) :
    (Nat.toDigits 10 d.digits).length < (Nat.toDigits 10 digits).length ∨
      (Nat.toDigits 10 d.digits).length = (Nat.toDigits 10 digits).length ∧
        |d.value - x.abs.value| ≤ |Decimal.value ⟨digits, d.places + more⟩ - x.abs.value| := by
  have back : RoundsTo (Decimal.value ⟨d.digits, d.places⟩) x.abs := fewest.readsBack
  obtain ⟨head, lower, upper⟩ : ∃ head,
      head * 10 ^ more ≤ digits ∧ digits ≤ (head + 1) * 10 ^ more :=
    ⟨digits / 10 ^ more, Nat.div_mul_le_self _ _,
      (Nat.lt_mul_of_div_lt (Nat.lt_succ_self _) (Nat.pow_pos (by decide))).le⟩
  have longer (nonzero : 0 < head) :
      (Nat.toDigits 10 head).length < (Nat.toDigits 10 digits).length := by
    have := length_toDigits_mono lower
    rw [length_toDigits_mul_ten_pow nonzero] at this
    omega
  -- `head` are the digits up to the fewest places, rounded down
  rcases Nat.lt_or_ge head d.digits with inside | outside
  · have next : RoundsTo (Decimal.value ⟨head + 1, d.places⟩) x.abs := by
      have above := ((Decimal.value_le_value_iff _).2 upper).trans_eq
        (Decimal.value_mul_ten_pow (head + 1) d.places more)
      have below := (Decimal.value_le_value_iff d.places).2 inside
      exact h.between (x.isFinite_abs ▸ finite) back above below
    have same := fewest.length_le finite fraction back next
    rcases Nat.eq_zero_or_pos head with rfl | nonzero
    · -- only here the count of digits may be the same
      have one : (Nat.toDigits 10 (0 + 1)).length = 1 := rfl
      have some : 0 < (Nat.toDigits 10 d.digits).length := Nat.length_toDigits_pos
      rcases Nat.lt_or_ge 1 (Nat.toDigits 10 digits).length with longer | single
      · exact .inl (by omega)
      · refine .inr ⟨?_, fewest.near_of_single_digit finite fraction ?_ positive next⟩
        · have : 0 < (Nat.toDigits 10 digits).length := Nat.length_toDigits_pos
          omega
        · simpa using (Nat.length_toDigits_le_iff (by decide) Nat.one_pos).1 single
    · rw [length_toDigits_succ (fewest.mod_ten_ne_zero finite fraction next)] at same
      exact .inl (same.trans_lt (longer nonzero))
  · have nonzero : 0 < d.digits := by
      have := fewest.digits_mod_ten_ne_zero finite fraction
      omega
    exact .inl ((length_toDigits_mono outside).trans_lt (longer (nonzero.trans_le outside)))

theorem significant_eq : d.significant = (Nat.toDigits 10 d.digits).length := by
  have last := fewest.digits_mod_ten_ne_zero finite fraction
  have := Decimal.significant_mul_ten_pow last 0 d.places
  rwa [pow_zero, mul_one] at this

/-- **A decimal with the fewest places also has the fewest digits, and is the nearest with so
many.** -/
theorem prefers {other : Decimal} (h : RoundsTo other.value x.abs) : x.Prefers d other := by
  obtain ⟨digits, places, value, significant⟩ := exists_trimmed finite fraction h
  rw [Prefers, fewest.significant_eq finite fraction, significant, value]
  rw [value] at h
  have positive : 0 < places := places_pos_of_roundsTo finite fraction h
  have enough : d.places ≤ places := Nat.not_lt.1 fun fewer => fewest.fewest _ _ positive fewer h
  obtain ⟨more, rfl⟩ := Nat.exists_eq_add_of_le enough
  rcases Nat.eq_zero_or_pos more with rfl | positive
  · have same := le_antisymm (fewest.length_le finite fraction fewest.readsBack h)
      (fewest.length_le finite fraction h fewest.readsBack)
    exact .inr ⟨same, fewest.nearest _ h⟩
  · exact fewest.length_le_finer finite fraction positive h

end HasFewestPlaces

theorem value_pos_of_roundsTo {minus : Bool} {other : Decimal}
    (h : RoundsTo (signed minus other.value) x) : 0 < other.value := by
  refine lt_of_le_of_ne other.value_nonneg fun zero => ?_
  have none : signed minus other.value = (0 : ℕ) := by simp [← zero, signed]
  rw [isWhole_of_roundsTo finite (none ▸ h)] at fraction
  exact Bool.noConfusion fraction

/-- **What a number that is not whole is written as is the shortest decimal that is read as it.** -/
theorem isShortest_shortest : x.IsShortest x.shortest := by
  have fewest := hasFewestPlaces_shortest finite
  have unsigned {minus : Bool} {other : Decimal} (h : RoundsTo (signed minus other.value) x) :=
    (roundsTo_signed_iff (value_pos_of_roundsTo finite fraction h)).1 h
  constructor
  case readsBack =>
    have back : RoundsTo (signed false x.shortest.value) x.abs := fewest.readsBack
    have positive : 0 < x.shortest.value :=
      value_pos_of_roundsTo (x.isFinite_abs ▸ finite) (x.isWhole_abs ▸ fraction) back
    exact (roundsTo_signed_iff positive).2 ⟨rfl, fewest.readsBack⟩
  case fewest =>
    intro minus other h
    rcases fewest.prefers finite fraction (unsigned h).2 with fewer | ⟨same, -⟩
    · exact fewer.le
    · exact same.le
  case nearest =>
    intro minus other h same
    obtain ⟨rfl, back⟩ := unsigned h
    rw [abs_signed_sub, abs_signed_sub]
    exact ((fewest.prefers finite fraction back).resolve_left same.not_gt).2

end Binary64

end LoxLexer
