import LoxLexer.Number.Decimal
import Mathlib.Algebra.Order.Field.Rat
import Mathlib.Algebra.Order.Group.Unbundled.Abs

/-!
# Values and rounding

What binary64 numbers, decimals and the texts of numbers stand for, as rational numbers, and what it
means that a rational number rounds to a binary64 number. That is said by comparing distances to all
numbers of the format, and the value of a text goes digit by digit; nothing is rounded or divided as
it is done in reading and writing.
-/

namespace LoxLexer

/-- A number with its sign. -/
def signed (minus : Bool) (v : ℚ) : ℚ := if minus then -v else v

namespace Binary64

/-- The value of a finite number. -/
def value (x : Binary64) : ℚ := signed x.negative (x.units / unitsPerOne)

/-- The least absolute value that is rounded to infinity. It lies half a step above the largest
finite number, as if the format went on. -/
def overflow : ℚ := 2 ^ 1024 - 2 ^ 970

/-- A finite number is nearest to `v`, and has an even significand if another one is as near. -/
structure IsNearest (x : Binary64) (v : ℚ) : Prop where
  /-- The number is finite. -/
  finite : x.isFinite = true
  /-- The sign bit is that of `v`, also where the number is a zero. -/
  sign : x.negative = true ↔ v < 0
  /-- No finite number is nearer. -/
  nearest : ∀ y : Binary64, y.isFinite = true → |x.value - v| ≤ |y.value - v|
  /-- If another one is as near, the significand is even. -/
  even : ∀ y : Binary64, y.isFinite = true → |y.value - v| = |x.value - v| → y.value ≠ x.value →
    x.fractionField % 2 = 0

/-- Rounding to nearest, ties to even. -/
inductive RoundsTo (v : ℚ) (x : Binary64) : Prop where
  /-- Short of the overflow, to the nearest finite number. -/
  | finite (below : |v| < overflow) (nearest : x.IsNearest v)
  /-- Beyond, to the infinity of the same sign. -/
  | infinite (beyond : overflow ≤ |v|) (infinite : x.isInfinite = true)
      (sign : x.negative = true ↔ v < 0)

end Binary64

namespace Decimal

/-- The value of a decimal. -/
def value (d : Decimal) : ℚ := d.digits / 10 ^ d.places

/-- The number of digits from the first to the last that is not zero. -/
def significant (d : Decimal) : Nat :=
  ((Nat.toDigits 10 d.digits).reverse.dropWhile (· == '0')).length

end Decimal

/-- The decimal, with the sign of the number, is read as the number, and among all that are it has
the fewest digits and is the nearest with so many. -/
structure Binary64.IsShortest (x : Binary64) (d : Decimal) : Prop where
  /-- It reads back. -/
  readsBack : Binary64.RoundsTo (signed x.negative d.value) x
  /-- None that reads back has fewer digits. -/
  fewest : ∀ (minus : Bool) (other : Decimal),
    Binary64.RoundsTo (signed minus other.value) x → d.significant ≤ other.significant
  /-- None that reads back and has as few is nearer. -/
  nearest : ∀ (minus : Bool) (other : Decimal),
    Binary64.RoundsTo (signed minus other.value) x → other.significant = d.significant →
      |signed x.negative d.value - x.value| ≤ |signed minus other.value - x.value|

/-! ### Texts -/

/-- What digits behind a point stand for: a tenth of the first one and of what the others stand
for. -/
def fractionValue : List Char → ℚ
  | [] => 0
  | c :: rest => ((c.toNat - '0'.toNat : Nat) + fractionValue rest) / 10

/-- What digits with an optional fraction stand for. -/
def numeralValue (text : List Char) : ℚ :=
  Nat.ofDigitChars 10 (text.takeWhile Char.isDigit) 0 +
    fractionValue (text.dropWhile Char.isDigit).tail

end LoxLexer
