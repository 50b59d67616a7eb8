import LoxLexer.Proofs.Number.Numeral

/-!
# The fewest places

A number that is not whole is written with the fewest decimal places that read back, as the nearest
decimal with so many: **`hasFewestPlaces_shortest`**. With a given count of places two candidates
are enough, for what reads back is an interval around the value, so the neighbours of the value are
in it before all others on their side (`neighbour_of_roundsTo`). The search ends, as the exact value
has 1074 places (`value_exact`). Hence what is written reads back, up to the sign
(**`roundsTo_toDecimal`**), and does not end in a zero (`HasFewestPlaces.mod_ten_ne_zero`).
-/

namespace LoxLexer

namespace Binary64

theorem readsBack_iff {x : Binary64} {d : Decimal} :
    x.readsBack d = true ↔ RoundsTo d.value x.abs := by
  rw [readsBack, decide_eq_true_iff, Decimal.roundsTo_iff]

end Binary64

/-! ### Decimals with the same places -/

namespace Decimal

theorem value_le_value_iff {a b : ℕ} (places : ℕ) :
    value ⟨a, places⟩ ≤ value ⟨b, places⟩ ↔ a ≤ b := by
  have positive : (0 : ℚ) < 10 ^ places := by positivity
  rw [value, value, div_le_div_iff_of_pos_right positive, Nat.cast_le]

theorem value_mul (digits factor places : ℕ) :
    value ⟨digits * factor, places⟩ = factor * value ⟨digits, places⟩ := by
  rw [value, value]
  push_cast
  ring

theorem value_mul_ten_pow (digits places more : ℕ) :
    value ⟨digits * 10 ^ more, places + more⟩ = value ⟨digits, places⟩ := by
  rw [value, value]
  push_cast
  rw [pow_add, mul_div_mul_right _ _ (by positivity)]

end Decimal

namespace Binary64

/-- How far above its lower neighbour the value lies, counted in the last place. -/
def remainder (x : Binary64) (places : ℕ) : ℚ :=
  (x.units * Nat.pow 10 places % unitsPerOne : ℕ) / unitsPerOne

theorem remainder_nonneg (x : Binary64) (places : ℕ) : 0 ≤ x.remainder places :=
  div_nonneg (Nat.cast_nonneg _) unitsPerOne_pos.le

theorem remainder_lt_one (x : Binary64) (places : ℕ) : x.remainder places < 1 := by
  have left : x.units * Nat.pow 10 places % unitsPerOne < unitsPerOne :=
    Nat.mod_lt _ (by exact_mod_cast unitsPerOne_pos)
  rw [remainder, div_lt_one unitsPerOne_pos]
  exact_mod_cast left

theorem exists_neighbours (x : Binary64) (places : ℕ) :
    ∃ below : ℕ, x.neighbours places = (⟨below, places⟩, ⟨below + 1, places⟩) ∧
      x.abs.value = (below + x.remainder places) / 10 ^ places := by
  refine ⟨_, rfl, ?_⟩
  have positive : (0 : ℚ) < 10 ^ places := by positivity
  have nonzero := unitsPerOne_pos.ne'
  have parts := congrArg (Nat.cast (R := ℚ)) (Nat.div_add_mod (x.units * 10 ^ places) unitsPerOne)
  rw [value_abs, remainder, Nat.pow_eq]
  generalize x.units * 10 ^ places / unitsPerOne = below at *
  generalize x.units * 10 ^ places % unitsPerOne = left at *
  generalize unitsPerOne = one at *
  push_cast at parts
  rw [div_eq_div_iff nonzero positive.ne', ← parts, add_mul, div_mul_cancel₀ _ nonzero, mul_comm]

theorem value_neighbours (x : Binary64) (places : ℕ) :
    (x.neighbours places).1.value ≤ x.abs.value ∧ x.abs.value < (x.neighbours places).2.value := by
  obtain ⟨below, neighbours, value⟩ := x.exists_neighbours places
  have positive : (0 : ℚ) < 10 ^ places := by positivity
  have unsigned := x.remainder_nonneg places
  have less := x.remainder_lt_one places
  rw [neighbours, value]
  simp only [Decimal.value]
  rw [div_le_div_iff_of_pos_right positive, div_lt_div_iff_of_pos_right positive]
  push_cast
  constructor <;> linarith

/-- The remainder tells on which side of the middle between its neighbours the value lies. -/
theorem middle_neighbours (x : Binary64) (places : ℕ) :
    (x.neighbours places).1.value + (x.neighbours places).2.value ≤ 2 * x.abs.value ↔
      unitsPerOne ≤ 2 * (x.units * Nat.pow 10 places % unitsPerOne) := by
  obtain ⟨below, neighbours, value⟩ := x.exists_neighbours places
  have positive : (0 : ℚ) < 10 ^ places := by positivity
  have half : 1 ≤ 2 * x.remainder places ↔
      unitsPerOne ≤ 2 * (x.units * Nat.pow 10 places % unitsPerOne) := by
    rw [remainder, ← mul_div_assoc, one_le_div unitsPerOne_pos]
    exact_mod_cast Iff.rfl
  rw [neighbours, value, ← half]
  simp only [Decimal.value]
  rw [← add_div, ← mul_div_assoc, div_le_div_iff_of_pos_right positive]
  push_cast
  constructor <;> intro <;> linarith

/-- The decimal reads back and is as near as the other one. -/
def IsAsGood (x : Binary64) (d other : Decimal) : Prop :=
  RoundsTo d.value x.abs ∧ |d.value - x.abs.value| ≤ |other.value - x.abs.value|

/-- If a decimal reads back, one of the neighbours with as many places does, and is as near. -/
theorem neighbour_of_roundsTo {x : Binary64} (finite : x.isFinite = true) {digits places : ℕ}
    (h : RoundsTo (Decimal.value ⟨digits, places⟩) x.abs) :
    x.IsAsGood (x.neighbours places).1 ⟨digits, places⟩ ∨
      x.IsAsGood (x.neighbours places).2 ⟨digits, places⟩ := by
  obtain ⟨below, above⟩ := x.value_neighbours places
  have itself := roundsTo_value_abs finite
  rw [← isFinite_abs] at finite
  rcases Nat.lt_or_ge (x.neighbours places).1.digits digits with upper | lower
  · right
    have order : (x.neighbours places).2.value ≤ Decimal.value ⟨digits, places⟩ :=
      (Decimal.value_le_value_iff _).2 upper
    refine ⟨itself.between finite h above.le order, ?_⟩
    rw [abs_of_nonneg (by linarith), abs_of_nonneg (by linarith)]
    linarith
  · left
    have order : Decimal.value ⟨digits, places⟩ ≤ (x.neighbours places).1.value :=
      (Decimal.value_le_value_iff _).2 lower
    refine ⟨h.between finite itself order below, ?_⟩
    rw [abs_of_nonpos (by linarith), abs_of_nonpos (by linarith)]
    linarith

/-- The two candidates are the neighbours, the nearer one first. -/
theorem exists_candidates {x : Binary64} (finite : x.isFinite = true) (places : ℕ) :
    ∃ a b : ℕ, x.candidates places = [⟨a, places⟩, ⟨b, places⟩] ∧
      |Decimal.value ⟨a, places⟩ - x.abs.value| ≤ |Decimal.value ⟨b, places⟩ - x.abs.value| ∧
      ∀ digits, RoundsTo (Decimal.value ⟨digits, places⟩) x.abs →
        x.IsAsGood ⟨a, places⟩ ⟨digits, places⟩ ∨ x.IsAsGood ⟨b, places⟩ ⟨digits, places⟩ := by
  have order : (x.neighbours places).1.value < (x.neighbours places).2.value :=
    (x.value_neighbours places).1.trans_lt (x.value_neighbours places).2
  have middle := x.middle_neighbours places
  rw [← abs_sub_le_abs_sub_iff' order] at middle
  rw [candidates]
  split
  · next left =>
    rw [← not_le, ← middle, not_le] at left
    exact ⟨_, _, rfl, left.le, fun digits h => neighbour_of_roundsTo finite h⟩
  · next left =>
    rw [not_lt, ← middle] at left
    exact ⟨_, _, rfl, left, fun digits h => (neighbour_of_roundsTo finite h).symm⟩

/-- The decimal is the nearest of those with as many places that read back. -/
structure IsNearestDecimal (x : Binary64) (d : Decimal) : Prop where
  /-- It reads back. -/
  readsBack : RoundsTo d.value x.abs
  /-- None that reads back is nearer. -/
  nearest : ∀ digits, RoundsTo (Decimal.value ⟨digits, d.places⟩) x.abs →
    |d.value - x.abs.value| ≤ |Decimal.value ⟨digits, d.places⟩ - x.abs.value|

/-- **Trying the two neighbours finds the nearest decimal that reads back, if there is one.** -/
theorem nearest?_spec {x : Binary64} (finite : x.isFinite = true) (places : ℕ) :
    (∃ digits, x.nearest? places = some ⟨digits, places⟩ ∧ x.IsNearestDecimal ⟨digits, places⟩) ∨
      (x.nearest? places = none ∧ ∀ digits, ¬ RoundsTo (Decimal.value ⟨digits, places⟩) x.abs) := by
  obtain ⟨a, b, both, nearer, good⟩ := exists_candidates finite places
  rw [nearest?, both, List.find?_cons, List.find?_cons, List.find?_nil]
  cases ha : x.readsBack ⟨a, places⟩
  case true =>
    refine .inl ⟨a, rfl, readsBack_iff.1 ha, fun digits h => ?_⟩
    exact (good digits h).elim And.right fun h => nearer.trans h.2
  case false =>
    have ha' : ¬ RoundsTo (Decimal.value ⟨a, places⟩) x.abs := by simp [← readsBack_iff, ha]
    have good' (digits : ℕ) (h : RoundsTo (Decimal.value ⟨digits, places⟩) x.abs) :=
      (good digits h).resolve_left fun h => ha' h.1
    cases hb : x.readsBack ⟨b, places⟩
    case true =>
      exact .inl ⟨b, rfl, readsBack_iff.1 hb, fun digits h => (good' digits h).2⟩
    case false =>
      have hb' : ¬ RoundsTo (Decimal.value ⟨b, places⟩) x.abs := by simp [← readsBack_iff, hb]
      exact .inr ⟨rfl, fun digits h => hb' (good' digits h).1⟩

/-! ### The fewest places -/

theorem units_mul_five_pow (units places : ℕ) :
    Decimal.value ⟨units * Nat.pow 5 places, places⟩ = units / 2 ^ places := by
  have ten : (10 : ℚ) ^ places = 2 ^ places * 5 ^ places := by rw [← mul_pow]; norm_num
  rw [Decimal.value, ten, Nat.pow_eq]
  push_cast
  exact mul_div_mul_right _ _ (by positivity)

theorem value_exact (x : Binary64) : x.exact.value = x.abs.value := by
  rw [value_abs, unitsPerOne_eq, Nat.cast_pow, Nat.cast_two, exact]
  generalize 1074 = places
  exact units_mul_five_pow _ _

theorem exists_of_findSome?_range' {α : Type} {f : ℕ → Option α} {n : ℕ} {a : α}
    (h : (List.range' 1 n).findSome? f = some a) :
    ∃ p, 0 < p ∧ f p = some a ∧ ∀ q, 0 < q → q < p → f q = none := by
  obtain ⟨before, p, after, range, found, failed⟩ := List.findSome?_eq_some_iff.1 h
  obtain ⟨k, -, rfl, rest⟩ := List.range'_eq_append_iff.1 range
  obtain ⟨rfl, -⟩ := List.range'_eq_cons_iff.1 rest.symm
  rw [Nat.mul_one] at found
  refine ⟨1 + k, by omega, found, fun q positive below => failed q ?_⟩
  rw [List.mem_range'_1]
  omega

/-- The decimal has the fewest places, at least one, that read back, and is the nearest of those
with so many. -/
structure HasFewestPlaces (x : Binary64) (d : Decimal) : Prop extends x.IsNearestDecimal d where
  /-- It has at least one place. -/
  places_pos : 0 < d.places
  /-- None with fewer places reads back. -/
  fewest : ∀ digits places, 0 < places → places < d.places →
    ¬ RoundsTo (Decimal.value ⟨digits, places⟩) x.abs

/-- **What a number that is not whole is written as has the fewest places.** -/
theorem hasFewestPlaces_shortest {x : Binary64} (finite : x.isFinite = true) :
    x.HasFewestPlaces x.shortest := by
  have spec := nearest?_spec finite
  rw [shortest]
  cases found : (List.range' 1 1074).findSome? x.nearest?
  case none =>
    -- the exact value has 1074 places
    rw [List.findSome?_eq_none_iff] at found
    have last := found 1074 (by rw [List.mem_range'_1]; omega)
    have exact' : RoundsTo x.exact.value x.abs := x.value_exact ▸ roundsTo_value_abs finite
    rcases spec 1074 with ⟨_, this, -⟩ | ⟨-, this⟩
    · simp [last] at this
    · exact absurd exact' (this _)
  case some d =>
    obtain ⟨places, positive, this, failed⟩ := exists_of_findSome?_range' found
    rw [Option.getD_some]
    obtain ⟨digits, this', nearest⟩ := (spec places).resolve_right (by simp [this])
    obtain rfl : d = ⟨digits, places⟩ := by simpa [this] using this'
    refine ⟨nearest, positive, fun other fewer positive' below => ?_⟩
    exact ((spec fewer).resolve_left (by simp [failed fewer positive' below])).2 other

theorem value_zero_places (n : ℕ) : Decimal.value ⟨n, 0⟩ = n := by simp [Decimal.value]

theorem isWhole_abs (x : Binary64) : x.abs.isWhole = x.isWhole := by
  rw [isWhole, isWhole, units_abs]

/-- Only whole numbers have decimals without places that read back. -/
theorem places_pos_of_roundsTo {x : Binary64} (finite : x.isFinite = true)
    (fraction : x.isWhole = false) {d : Decimal} (h : RoundsTo d.value x.abs) : 0 < d.places := by
  obtain ⟨digits, places⟩ := d
  rw [Nat.pos_iff_ne_zero]
  rintro rfl
  rw [value_zero_places] at h
  rw [← isFinite_abs] at finite
  rw [← isWhole_abs, isWhole_of_roundsTo finite h] at fraction
  exact Bool.noConfusion fraction

theorem value_whole {x : Binary64} (whole : x.isWhole = true) :
    Decimal.value ⟨x.units / unitsPerOne, 0⟩ = x.abs.value := by
  rw [isWhole, decide_eq_true_iff] at whole
  rw [value_zero_places, value_abs, eq_div_iff unitsPerOne_pos.ne', ← Nat.cast_mul,
    Nat.div_mul_cancel (Nat.dvd_of_mod_eq_zero whole)]

theorem toDecimal_whole {x : Binary64} (whole : x.isWhole = true) :
    x.toDecimal = ⟨x.units / unitsPerOne, 0⟩ :=
  if_pos whole

theorem toDecimal_fraction {x : Binary64} (fraction : x.isWhole = false) :
    x.toDecimal = x.shortest :=
  if_neg (Bool.not_eq_true _ ▸ fraction)

/-- **Every finite number is written as a decimal that reads back, up to the sign.** -/
theorem roundsTo_toDecimal {x : Binary64} (finite : x.isFinite = true) :
    RoundsTo x.toDecimal.value x.abs := by
  cases whole : x.isWhole
  case true =>
    rw [toDecimal_whole whole, value_whole whole]
    exact roundsTo_value_abs finite
  case false =>
    rw [toDecimal_fraction whole]
    exact (hasFewestPlaces_shortest finite).readsBack

/-- No decimal with so few places that reads back ends in a zero. -/
theorem HasFewestPlaces.mod_ten_ne_zero {x : Binary64} (finite : x.isFinite = true)
    (fraction : x.isWhole = false) {d : Decimal} (fewest : x.HasFewestPlaces d) {digits : ℕ}
    (h : RoundsTo (Decimal.value ⟨digits, d.places⟩) x.abs) : digits % 10 ≠ 0 := by
  intro last
  obtain ⟨fewer, places⟩ : ∃ fewer, d.places = fewer + 1 :=
    ⟨d.places - 1, (Nat.sub_add_cancel fewest.places_pos).symm⟩
  obtain ⟨head, rfl⟩ : ∃ head, digits = head * 10 ^ 1 :=
    ⟨digits / 10, (Nat.div_mul_cancel (Nat.dvd_of_mod_eq_zero last)).symm⟩
  rw [places, Decimal.value_mul_ten_pow] at h
  have positive : 0 < fewer := places_pos_of_roundsTo finite fraction h
  exact fewest.fewest _ _ positive (by omega) h

theorem HasFewestPlaces.digits_mod_ten_ne_zero {x : Binary64} (finite : x.isFinite = true)
    (fraction : x.isWhole = false) {d : Decimal} (fewest : x.HasFewestPlaces d) :
    d.digits % 10 ≠ 0 :=
  fewest.mod_ten_ne_zero finite fraction fewest.readsBack

end Binary64

end LoxLexer
