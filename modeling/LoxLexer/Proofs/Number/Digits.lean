import LoxLexer.Number.Decimal
import LoxLexer.Text.Quoted
import Mathlib.Algebra.Ring.Nat
import Mathlib.Tactic.ByContra

/-!
# Decimal digits

The digits of a whole number, as they are written. There is no zero in front (`head?_toDigits`), the
last one is the remainder by ten (`getLast?_toDigits`), and their count grows only where a power of
ten is passed (`exists_pow_of_length_lt`).
-/

namespace LoxLexer

/-! ### First and last digit -/

theorem isDigit_of_mem_toDigits {n : ℕ} : ∀ c ∈ Nat.toDigits 10 n, c.isDigit = true :=
  fun _ => Nat.isDigit_of_mem_toDigits (by decide) (by decide)

theorem getLast?_toDigits (n : ℕ) : (Nat.toDigits 10 n).getLast? = some (n % 10).digitChar := by
  rcases Nat.lt_or_ge n 10 with small | large
  · rw [Nat.toDigits_of_lt_base small, Nat.mod_eq_of_lt small, List.getLast?_singleton]
  · rw [Nat.toDigits_of_base_le (by decide) large, List.getLast?_concat]

/-- Only zero is written with a zero in front. -/
theorem head?_toDigits {n : ℕ} (h : (Nat.toDigits 10 n).head? = some '0') : n = 0 := by
  induction n using Nat.strongRecOn with
  | ind n ih =>
    rcases Nat.lt_or_ge n 10 with small | large
    · rw [Nat.toDigits_of_lt_base small, List.head?_cons, Option.some_inj] at h
      exact Nat.digitChar_eq_zero.1 h
    · rw [Nat.toDigits_of_base_le (by decide) large, List.head?_append, Option.or_eq_some_iff,
        List.head?_eq_none_iff] at h
      have first := h.resolve_right fun none => Nat.toDigits_ne_nil none.1
      have := ih (n / 10) (Nat.div_lt_self (by omega) (by decide)) first
      omega

/-! ### The count of digits -/

theorem toDigits_mul_ten_pow {n : ℕ} (positive : 0 < n) (zeros : ℕ) :
    Nat.toDigits 10 (n * 10 ^ zeros) = Nat.toDigits 10 n ++ List.replicate zeros '0' := by
  induction zeros with
  | zero => simp
  | succ zeros ih =>
    have large : 10 ≤ n * 10 ^ (zeros + 1) := by
      have := Nat.mul_pos positive (Nat.pow_pos (a := 10) (n := zeros) (by decide))
      rw [Nat.pow_succ, ← Nat.mul_assoc]
      omega
    have head : n * 10 ^ (zeros + 1) / 10 = n * 10 ^ zeros := by
      rw [Nat.pow_succ, ← Nat.mul_assoc, Nat.mul_div_cancel _ (by decide)]
    have last : n * 10 ^ (zeros + 1) % 10 = 0 := by
      rw [Nat.pow_succ, ← Nat.mul_assoc, Nat.mul_mod_left]
    rw [Nat.toDigits_of_base_le (by decide) large, head, last, ih, List.replicate_succ',
      List.append_assoc]
    rfl

theorem length_toDigits_mul_ten_pow {n : ℕ} (positive : 0 < n) (zeros : ℕ) :
    (Nat.toDigits 10 (n * 10 ^ zeros)).length = (Nat.toDigits 10 n).length + zeros := by
  rw [toDigits_mul_ten_pow positive, List.length_append, List.length_replicate]

/-- Where the count of digits grows, a power of ten is passed. -/
theorem exists_pow_of_length_lt {a b : ℕ}
    (h : (Nat.toDigits 10 a).length < (Nat.toDigits 10 b).length) :
    ∃ k, 0 < k ∧ a < 10 ^ k ∧ 10 ^ k ≤ b := by
  have positive : 0 < (Nat.toDigits 10 a).length := Nat.length_toDigits_pos
  refine ⟨_, positive, (Nat.length_toDigits_le_iff (by decide) positive).1 (Nat.le_refl _), ?_⟩
  rwa [← Nat.not_lt, ← Nat.length_toDigits_le_iff (by decide) positive, Nat.not_le]

theorem length_toDigits_mono {a b : ℕ} (h : a ≤ b) :
    (Nat.toDigits 10 a).length ≤ (Nat.toDigits 10 b).length := by
  by_contra grows
  obtain ⟨k, -, below, above⟩ := exists_pow_of_length_lt (Nat.not_le.1 grows)
  omega

theorem pow_ten_mod {k : ℕ} (positive : 0 < k) : 10 ^ k % 10 = 0 := by
  obtain ⟨k, rfl⟩ := Nat.exists_eq_succ_of_ne_zero (Nat.ne_of_gt positive)
  rw [Nat.pow_succ, Nat.mul_mod_left]

theorem length_toDigits_succ {n : ℕ} (h : (n + 1) % 10 ≠ 0) :
    (Nat.toDigits 10 (n + 1)).length = (Nat.toDigits 10 n).length := by
  refine Nat.le_antisymm ?_ (length_toDigits_mono (Nat.le_succ n))
  by_contra grows
  obtain ⟨k, positive, below, above⟩ := exists_pow_of_length_lt (Nat.not_le.1 grows)
  have power : 10 ^ k = n + 1 := by omega
  exact h (power ▸ pow_ten_mod positive)

/-! ### Digits behind a point -/

namespace Decimal

theorem length_padded {width n : ℕ} (positive : 0 < width) (h : n < 10 ^ width) :
    (padded width n).length = width := by
  have shown := (Nat.length_toDigits_le_iff (by decide : 1 < 10) positive).2 h
  simp only [padded, List.length_append, List.length_replicate]
  omega

theorem ofDigitChars_padded (width n : ℕ) : Nat.ofDigitChars 10 (padded width n) 0 = n := by
  simp [padded, Nat.ofDigitChars_append]

theorem isDigit_of_mem_padded {width n : ℕ} : ∀ c ∈ padded width n, c.isDigit = true := by
  intro c hc
  rw [padded, List.mem_append, List.mem_replicate] at hc
  rcases hc with ⟨-, rfl⟩ | hc
  · rfl
  · exact isDigit_of_mem_toDigits c hc

theorem padded_ne_nil (width n : ℕ) : padded width n ≠ [] := by
  simp [padded]

/-- The last digit behind the point is that of the decimal. -/
theorem getLast?_padded (digits : ℕ) {places : ℕ} (positive : 0 < places) :
    (padded places (digits % 10 ^ places)).getLast? = some (digits % 10).digitChar := by
  rw [padded, List.getLast?_append, getLast?_toDigits, Option.some_or,
    Nat.mod_mod_of_dvd _ (Nat.dvd_of_mod_eq_zero (pow_ten_mod positive))]

theorem newline_not_mem_write (d : Decimal) : '\n' ∉ d.write := by
  have digits (n : ℕ) : '\n' ∉ Nat.toDigits 10 n :=
    newline_not_mem_toDigits (by decide) (by decide) n
  rw [write]
  split <;> simp [padded, digits]

end Decimal

end LoxLexer
