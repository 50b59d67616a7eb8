import LoxLexer.Proofs.Number.Digits
import LoxLexer.Proofs.Number.Readings
import LoxLexer.Proofs.Scan.LongestMatch

/-!
# Numerals

What is read from the text of a number is what its digits stand for (`Lexeme.exists_value`), and it
is read as the number that this rounds to (**`Decimal.roundsTo_iff`**). A decimal is written as a
numeral, from which it is read back (**`Decimal.read?_write`**).
-/

namespace LoxLexer

/-! ### Values of texts -/

theorem fractionValue_eq (fraction : List Char) :
    fractionValue fraction = Nat.ofDigitChars 10 fraction 0 / 10 ^ fraction.length := by
  induction fraction with
  | nil => simp [fractionValue]
  | cons c rest ih =>
    have first := @Nat.ofDigitChars_eq_ofDigitChars_zero rest (c.toNat - '0'.toNat)
    rw [fractionValue, ih, Nat.ofDigitChars_cons, Nat.mul_zero, Nat.zero_add, first,
      List.length_cons]
    push_cast
    field_simp
    ring

/-- What is read from a numeral is what its digits stand for. -/
theorem Lexeme.exists_value {text : List Char} (h : Lexeme .number text) :
    ∃ d, Decimal.read? text = some d ∧ d.value = numeralValue text := by
  cases h with
  | fixed h => cases h
  | whole nonempty all =>
    refine ⟨_, read?_whole nonempty all, ?_⟩
    have ends : ∀ c ∈ ([] : List Char).head?, c.isDigit = false := by simp
    have ht := takeWhile_append_of_head all ends
    have hd := dropWhile_append_of_head all ends
    rw [List.append_nil] at ht hd
    simp [numeralValue, ht, hd, fractionValue, Decimal.value]
  | @decimal digits fraction nonempty all nonemptyFraction allFraction =>
    refine ⟨_, read?_decimal nonempty all nonemptyFraction allFraction, ?_⟩
    have ends : ∀ c ∈ ('.' :: fraction).head?, c.isDigit = false := by simp
    rw [numeralValue, takeWhile_append_of_head all ends, dropWhile_append_of_head all ends,
      List.tail_cons, fractionValue_eq, Decimal.value, Nat.ofDigitChars_append,
      Nat.ofDigitChars_eq_ofDigitChars_zero]
    push_cast
    field_simp

namespace Decimal

theorem value_nonneg (d : Decimal) : 0 ≤ d.value :=
  div_nonneg (Nat.cast_nonneg _) (by positivity)

/-- **A decimal reads as the number that its value rounds to.** -/
theorem roundsTo_iff {d : Decimal} {x : Binary64} :
    Binary64.RoundsTo d.value x ↔ d.toBinary64 = x := by
  have positive : 0 < Nat.pow 10 d.places := Nat.pow_pos (by decide)
  have ratio := Binary64.roundsTo_ratio_iff d.digits positive (x := x)
  rw [toBinary64, ← ratio, value, Nat.pow_eq]
  push_cast
  rfl

/-! ### Written decimals -/

theorem lexeme_write (d : Decimal) : Lexeme .number d.write := by
  rw [write]
  split
  · exact .whole (by simp) isDigit_of_mem_toDigits
  · exact .decimal (by simp) isDigit_of_mem_toDigits (padded_ne_nil _ _) isDigit_of_mem_padded

theorem length_fraction (digits : ℕ) {places : ℕ} (positive : 0 < places) :
    (padded places (digits % 10 ^ places)).length = places :=
  length_padded positive (Nat.mod_lt _ (Nat.pow_pos (by decide)))

/-- The digits before and behind the point are those of the decimal. -/
theorem ofDigitChars_write (digits : ℕ) {places : ℕ} (positive : 0 < places) :
    Nat.ofDigitChars 10 (Nat.toDigits 10 (digits / 10 ^ places) ++
      padded places (digits % 10 ^ places)) 0 = digits := by
  rw [Nat.ofDigitChars_append, Nat.ofDigitChars_eq_ofDigitChars_zero, ofDigitChars_padded,
    Nat.ofDigitChars_ten_toDigits, length_fraction digits positive, Nat.div_add_mod]

/-- **A decimal is read back from its text.** -/
theorem read?_write (d : Decimal) : read? d.write = some d := by
  obtain ⟨digits, places⟩ := d
  rw [write]
  split
  · next whole =>
    obtain rfl : places = 0 := whole
    rw [read?_whole (by simp) isDigit_of_mem_toDigits, Nat.ofDigitChars_ten_toDigits]
    simp
  · next fraction =>
    have positive : 0 < places := Nat.pos_of_ne_zero fraction
    rw [read?_decimal (by simp) isDigit_of_mem_toDigits (padded_ne_nil _ _) isDigit_of_mem_padded,
      Nat.pow_eq, length_fraction digits positive,
      ofDigitChars_write digits positive]

end Decimal

end LoxLexer
