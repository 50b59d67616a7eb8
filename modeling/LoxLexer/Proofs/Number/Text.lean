import LoxLexer.Proofs.Number.Significant
import LoxLexer.Token.Basic

/-!
# The text of a number

A finite number is written as a sign, digits, and behind a point further digits. What these digits
are is said by `IsWritten`, separately for whole numbers, which have all digits of their values, and
for others, which have as few as are read as the number. That every finite number is written so is
**`display_number`**.
-/

namespace LoxLexer

namespace Binary64

/-- The sign in front of a number. -/
def minusSign (x : Binary64) : List Char := if x.negative then ['-'] else []

/-- A fraction behind its point; no point without one. -/
def pointed (fraction : List Char) : List Char :=
  if fraction = [] then [] else '.' :: fraction

theorem pointed_nil : pointed [] = [] := rfl

theorem pointed_of_ne_nil {fraction : List Char} (nonempty : fraction ≠ []) :
    pointed fraction = '.' :: fraction :=
  if_neg nonempty

/-- The digits before and behind the point that a finite number is written with. -/
structure IsWritten (x : Binary64) (whole fraction : List Char) : Prop where
  /-- There are only digits. -/
  digits : ∀ c ∈ whole ++ fraction, c.isDigit = true
  /-- A digit stands before the point. -/
  nonempty : whole ≠ []
  /-- A zero in front stands alone. -/
  leading : whole.head? = some '0' → whole = ['0']
  /-- No zero stands at the end of a fraction. -/
  trailing : fraction.getLast? ≠ some '0'
  /-- There is no fraction just if the value is a whole number. -/
  fraction_nil_iff : fraction = [] ↔ ∃ n : ℤ, x.value = n
  /-- A whole number is written with its digits. -/
  exact : ∀ n : ℤ, x.value = n → whole = Nat.toDigits 10 n.natAbs
  /-- Any other number is written with as few digits as are read as it. -/
  shortest : fraction ≠ [] →
    x.IsShortest ⟨Nat.ofDigitChars 10 (whole ++ fraction) 0, fraction.length⟩

theorem text_of_finite {x : Binary64} (finite : x.isFinite = true) :
    x.text.toList = x.minusSign ++ x.toDecimal.write := by
  rw [isFinite_iff] at finite
  have number : x.isNaN = false := by
    rw [isNaN, decide_eq_false_iff_not]
    omega
  have short : x.isInfinite = false := by
    rw [isInfinite, decide_eq_false_iff_not]
    omega
  rw [text, number, short, minusSign]
  simp only [Bool.false_eq_true, if_false, String.toList_ofList]
  split <;> rfl

theorem units_of_value {x : Binary64} {n : ℤ} (h : x.value = n) :
    x.units = n.natAbs * unitsPerOne := by
  have size := x.abs_value
  rw [h, eq_div_iff unitsPerOne_pos.ne'] at size
  have cast : (n.natAbs : ℚ) = |(n : ℚ)| := by rw [Nat.cast_natAbs, Int.cast_abs]
  rw [← cast] at size
  exact_mod_cast size.symm

theorem isWhole_iff {x : Binary64} : x.isWhole = true ↔ ∃ n : ℤ, x.value = n := by
  rw [isWhole, decide_eq_true_iff]
  constructor
  · intro whole
    obtain ⟨n, units⟩ := Nat.dvd_of_mod_eq_zero whole
    have size : (x.units / unitsPerOne : ℚ) = n := by
      rw [units, Nat.cast_mul, mul_div_cancel_left₀ _ unitsPerOne_pos.ne']
    rw [value, size]
    cases x.negative
    · exact ⟨n, by simp [signed]⟩
    · exact ⟨-n, by simp [signed]⟩
  · rintro ⟨n, h⟩
    rw [units_of_value h, Nat.mul_mod_left]

theorem isWritten_whole {x : Binary64} (whole : x.isWhole = true) :
    x.IsWritten (Nat.toDigits 10 (x.units / unitsPerOne)) [] := by
  constructor
  case digits => simpa using isDigit_of_mem_toDigits
  case nonempty => exact Nat.toDigits_ne_nil
  case leading =>
    intro zero
    rw [head?_toDigits zero]
    rfl
  case trailing => simp
  case fraction_nil_iff => simpa using isWhole_iff.1 whole
  case exact =>
    intro n h
    rw [units_of_value h, Nat.mul_div_cancel _ (by exact_mod_cast unitsPerOne_pos)]
  case shortest => exact fun nonempty => absurd rfl nonempty

theorem isWritten_fraction {x : Binary64} {d : Decimal}
    (fraction : x.isWhole = false) (positive : 0 < d.places) (last : d.digits % 10 ≠ 0)
    (shortest : x.IsShortest d) :
    x.IsWritten (Nat.toDigits 10 (d.digits / 10 ^ d.places))
      (Decimal.padded d.places (d.digits % 10 ^ d.places)) := by
  have notWhole : ¬ ∃ n : ℤ, x.value = n := by
    rw [← isWhole_iff, fraction]
    exact Bool.false_ne_true
  constructor
  case digits =>
    intro c hc
    rcases List.mem_append.1 hc with hc | hc
    · exact isDigit_of_mem_toDigits c hc
    · exact Decimal.isDigit_of_mem_padded c hc
  case nonempty => exact Nat.toDigits_ne_nil
  case leading =>
    intro zero
    rw [head?_toDigits zero]
    rfl
  case trailing =>
    rwa [Decimal.getLast?_padded _ positive, ne_eq, Option.some_inj, Nat.digitChar_eq_zero]
  case fraction_nil_iff => simpa [Decimal.padded_ne_nil] using notWhole
  case exact => exact fun n h => absurd ⟨n, h⟩ notWhole
  case shortest =>
    rw [Decimal.ofDigitChars_write _ positive, Decimal.length_fraction _ positive]
    exact fun _ => shortest

end Binary64

/-- **Whole numbers are written exactly, all others with the fewest digits.** -/
theorem display_number {x : Binary64} (finite : x.isFinite = true) :
    ∃ whole fraction, x.IsWritten whole fraction ∧
      (Literal.number x).display.toList = x.minusSign ++ (whole ++ Binary64.pointed fraction) := by
  rw [Literal.display, Binary64.text_of_finite finite]
  cases whole : x.isWhole
  case true =>
    refine ⟨_, [], Binary64.isWritten_whole whole, ?_⟩
    rw [Binary64.toDecimal_whole whole, Decimal.write_whole, Binary64.pointed_nil,
      List.append_nil]
  case false =>
    have fewest := Binary64.hasFewestPlaces_shortest finite
    have last := fewest.digits_mod_ten_ne_zero finite whole
    refine ⟨_, _, Binary64.isWritten_fraction whole fewest.places_pos last
      (Binary64.isShortest_shortest finite whole), ?_⟩
    rw [Binary64.toDecimal_fraction whole, Decimal.write, if_neg fewest.places_pos.ne',
      Binary64.pointed_of_ne_nil (Decimal.padded_ne_nil _ _), Nat.pow_eq]

/-- The negative number nearest to a millionth, with zeros behind the point. -/
theorem display_number_millionth :
    (⟨0xBEB0C6F7A0B5ED8D⟩ : Binary64).isFinite = true ∧
      (Literal.number ⟨0xBEB0C6F7A0B5ED8D⟩).display = "-0.000001" ∧
      ∃ whole fraction, (⟨0xBEB0C6F7A0B5ED8D⟩ : Binary64).IsWritten whole fraction ∧
        (Literal.number ⟨0xBEB0C6F7A0B5ED8D⟩).display.toList =
          (⟨0xBEB0C6F7A0B5ED8D⟩ : Binary64).minusSign ++ (whole ++ Binary64.pointed fraction) := by
  have finite : (⟨0xBEB0C6F7A0B5ED8D⟩ : Binary64).isFinite = true := by decide
  exact ⟨finite, by decide +kernel, display_number finite⟩

end LoxLexer
