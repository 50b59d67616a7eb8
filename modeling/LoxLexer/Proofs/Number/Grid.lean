import LoxLexer.Number.Binary64
import Mathlib.Order.Monotone.Basic
import Mathlib.Tactic.Ring

/-!
# The numbers of the format in order

The bits below the sign count the numbers of the format upwards from zero, and count on beyond the
finite ones. Between `2 ^ (52 + step)` and `2 ^ (53 + step)` units the numbers are the multiples of
`2 ^ step`: the bits of the multiple by `point` are `step * 2 ^ 52 + point` (**`unitsAt_grid`**).
Hence values grow with the bits (`unitsAt_strictMono`), and all large ones are multiples of a large
step (`exists_multiple`).
-/

namespace LoxLexer

namespace Binary64

/-- The units of the number with these bits below the sign. -/
def unitsAt (bits : Nat) : Nat :=
  if bits / 2 ^ 52 = 0 then bits % 2 ^ 52
  else (2 ^ 52 + bits % 2 ^ 52) * 2 ^ (bits / 2 ^ 52 - 1)

theorem units_eq (x : Binary64) : x.units = unitsAt x.magnitudeBits := rfl

/-- `point` may count the steps of `2 ^ step` units: it has 53 bits, or fewer where the steps are
the smallest. The next power of two closes the range. -/
structure OnGrid (step point : Nat) : Prop where
  /-- Only the smallest steps are counted from zero on. -/
  lower : step = 0 ∨ 2 ^ 52 ≤ point
  /-- Behind the last one the steps are doubled. -/
  upper : point ≤ 2 ^ 53

/-- **The bits of a multiple of a step.** -/
theorem unitsAt_grid {step point : Nat} (h : OnGrid step point) :
    unitsAt (step * 2 ^ 52 + point) = point * 2 ^ step := by
  obtain ⟨lower, upper⟩ := h
  rcases Nat.lt_or_ge point (2 ^ 52) with small | large
  · obtain rfl : step = 0 := by omega
    have field : (0 * 2 ^ 52 + point) / 2 ^ 52 = 0 := by omega
    rw [unitsAt, if_pos field]
    omega
  rcases Nat.lt_or_ge point (2 ^ 53) with inside | last
  · have field : (step * 2 ^ 52 + point) / 2 ^ 52 = step + 1 := by omega
    have fraction : 2 ^ 52 + (step * 2 ^ 52 + point) % 2 ^ 52 = point := by omega
    rw [unitsAt, field, fraction, if_neg (by omega), Nat.add_sub_cancel]
  · obtain rfl : point = 2 ^ 53 := by omega
    have field : (step * 2 ^ 52 + 2 ^ 53) / 2 ^ 52 = step + 2 := by omega
    have fraction : (step * 2 ^ 52 + 2 ^ 53) % 2 ^ 52 = 0 := by omega
    rw [unitsAt, field, fraction, if_neg (by omega), show step + 2 - 1 = step + 1 from rfl]
    ring

/-- All bits are those of a multiple of a step, with a next one. -/
theorem exists_grid (bits : Nat) : ∃ step point, bits = step * 2 ^ 52 + point ∧
    OnGrid step point ∧ OnGrid step (point + 1) := by
  rcases Nat.lt_or_ge bits (2 ^ 53) with small | large
  · exact ⟨0, bits, by omega, ⟨.inl rfl, by omega⟩, ⟨.inl rfl, by omega⟩⟩
  · refine ⟨bits / 2 ^ 52 - 1, bits % 2 ^ 52 + 2 ^ 52, ?_, ⟨.inr ?_, ?_⟩, ⟨.inr ?_, ?_⟩⟩ <;> omega

theorem unitsAt_strictMono : StrictMono unitsAt := by
  refine strictMono_nat_of_lt_succ fun bits => ?_
  obtain ⟨step, point, rfl, this, next⟩ := exists_grid bits
  rw [unitsAt_grid this, Nat.add_assoc, unitsAt_grid next]
  exact Nat.mul_lt_mul_of_pos_right (Nat.lt_succ_self point) (Nat.two_pow_pos step)

/-- From `2 ^ (52 + step)` units on, all numbers are multiples of `2 ^ step`. -/
theorem exists_multiple {step bits : Nat} (h : 2 ^ 52 * 2 ^ step ≤ unitsAt bits) :
    ∃ point, unitsAt bits = point * 2 ^ step := by
  have start : OnGrid step (2 ^ 52) := ⟨.inr (Nat.le_refl _), by omega⟩
  rw [← unitsAt_grid start, unitsAt_strictMono.le_iff_le] at h
  obtain ⟨larger, point, rfl, this, next⟩ := exists_grid bits
  obtain ⟨more, rfl⟩ : ∃ more, larger = step + more := by
    have := next.upper
    exact ⟨larger - step, by omega⟩
  exact ⟨point * 2 ^ more, by rw [unitsAt_grid this]; ring⟩

end Binary64

end LoxLexer
