/-!
# Binary64

The 64-bit binary floating-point format of IEEE 754, by its bits: a sign bit, an exponent field
of 11 bits and a fraction field of 52 bits. The smallest positive number is 2⁻¹⁰⁷⁴, called a
*unit* here, and every finite number is a whole count of units, so that all reasoning about
values is about natural numbers. Powers in definitions are written `Nat.pow`, which means the same
under every import; `Nat.pow_eq` turns them into the usual form.

A positive ratio is rounded to the nearest number of the format, a tie to the one whose significand
is even. The ratio is first measured in units; between 2ᵏ and 2ᵏ⁺¹ units the numbers of the format
lie 2ᵏ⁻⁵² units apart (never closer than one unit), and on that grid the nearest point is taken. The
bits of a number count the points of the format from zero on, so the grid point and its spacing give
the bits by one sum, also where rounding carries into the next binade or over the largest finite
number to infinity.
-/

namespace LoxLexer

/-- A binary64 number, by its 64 bits. -/
structure Binary64 where
  /-- The bits, the sign bit highest. -/
  bits : UInt64
  deriving DecidableEq, Repr

namespace Binary64

/-! ### The fields -/

/-- The number of units in one. -/
def unitsPerOne : Nat := Nat.pow 2 1074

/-- The bits of positive infinity, the least that are not those of a finite number. -/
def infinityBits : Nat := 2047 * Nat.pow 2 52

/-- Whether the sign bit is set. -/
def negative (x : Binary64) : Bool := Nat.pow 2 63 ≤ x.bits.toNat

/-- The bits below the sign. -/
def magnitudeBits (x : Binary64) : Nat := x.bits.toNat % Nat.pow 2 63

/-- The number without its sign. -/
def abs (x : Binary64) : Binary64 := ⟨UInt64.ofNat x.magnitudeBits⟩

/-- Whether the bits stand for no number. -/
def isNaN (x : Binary64) : Bool := infinityBits < x.magnitudeBits

/-- Whether the bits stand for one of the two infinities. -/
def isInfinite (x : Binary64) : Bool := x.magnitudeBits = infinityBits

/-- Whether the bits stand for a finite number. -/
def isFinite (x : Binary64) : Bool := x.magnitudeBits < infinityBits

/-- The exponent field. -/
def exponentField (x : Binary64) : Nat := x.magnitudeBits / Nat.pow 2 52

/-- The fraction field. -/
def fractionField (x : Binary64) : Nat := x.magnitudeBits % Nat.pow 2 52

/-! ### The value -/

/-- The absolute value of a finite number, in units: a subnormal number counts its fraction
field, a normal one has the hidden bit above it and doubles with each step of the exponent. -/
def units (x : Binary64) : Nat :=
  if x.exponentField = 0 then x.fractionField
  else (Nat.pow 2 52 + x.fractionField) * Nat.pow 2 (x.exponentField - 1)

/-- Whether a finite number is a whole number. -/
def isWhole (x : Binary64) : Bool := x.units % unitsPerOne = 0

/-- Whether two numbers compare equal: no NaN equals anything, and the two zeros are equal. -/
def sameValue (x y : Binary64) : Bool :=
  !x.isNaN && !y.isNaN &&
    (x = y || (x.magnitudeBits = 0 && y.magnitudeBits = 0))

theorem magnitudeBits_lt (x : Binary64) : x.magnitudeBits < Nat.pow 2 63 :=
  Nat.mod_lt _ (by decide)

theorem magnitudeBits_abs (x : Binary64) : x.abs.magnitudeBits = x.magnitudeBits := by
  have h := x.magnitudeBits_lt
  simp only [abs, magnitudeBits, UInt64.toNat_ofNat', Nat.pow_eq] at *
  omega

theorem sameValue_nan {x : Binary64} (h : x.isNaN = true) (y : Binary64) :
    x.sameValue y = false := by
  simp [sameValue, h]

end Binary64

/-! ### Rounding -/

/-- The whole number nearest to `num / den`, a half going to the even neighbour. -/
def roundHalfEven (num den : Nat) : Nat :=
  let down := num / den
  let left := num % den
  if 2 * left < den then down
  else if den < 2 * left then down + 1
  else down + down % 2

/-- The result lies within a half of the ratio. -/
theorem roundHalfEven_near (num : Nat) {den : Nat} (h : 0 < den) :
    2 * num ≤ 2 * (roundHalfEven num den * den) + den ∧
      2 * (roundHalfEven num den * den) ≤ 2 * num + den := by
  have hd : den * (num / den) + num % den = num := Nat.div_add_mod num den
  have hm : num % den < den := Nat.mod_lt _ h
  have hc : num / den * den = den * (num / den) := Nat.mul_comm _ _
  simp only [roundHalfEven]
  split
  · omega
  · split
    · rw [Nat.add_mul, hc]; omega
    · rcases Nat.mod_two_eq_zero_or_one (num / den) with e | e <;>
        rw [e, Nat.add_mul, hc] <;> omega

namespace Binary64

/-- The distance, as a power of two in units, between neighbours of the format where the floor of
the value is `units`. -/
def spacing (units : Nat) : Nat := units.log2 - 52

/-- The number nearest to `num / den`, ties to the even significand; infinity when no finite
number is as near as the first one past them would be. -/
def ofRatio (num den : Nat) : Binary64 :=
  let scaled := num * unitsPerOne
  let step := spacing (scaled / den)
  let point := roundHalfEven scaled (den * Nat.pow 2 step)
  ⟨UInt64.ofNat (min (step * Nat.pow 2 52 + point) infinityBits)⟩

end Binary64

end LoxLexer
