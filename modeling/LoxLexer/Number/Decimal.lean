import LoxLexer.Number.Binary64

/-!
# Decimal numbers

A decimal is a count of tenths, hundredths and so on: `digits / 10 ^ places`. It is written in
plain positional notation, digits with a point before the last `places` of them, and read from
exactly the texts of the form "digits" or "digits, a point, digits".

A whole binary64 number is written with the exact digits of its value. Any other finite number is
written with the fewest decimal places that read back as the same number. On the grid of `places`
decimal places only the two neighbours of the value have to be tried: whatever other point of the
grid reads back lies further out on the same side than one of them. The nearer one is tried first,
and the upper one when they are equally near.
-/

namespace LoxLexer

/-- The number `digits / 10 ^ places`. -/
structure Decimal where
  /-- All digits, as one whole number. -/
  digits : Nat
  /-- How many of the digits stand after the point. -/
  places : Nat
  deriving DecidableEq, Repr

namespace Decimal

/-! ### Reading -/

/-- Reads digits with an optional fraction; a point needs digits on both sides. -/
def read? (text : List Char) : Option Decimal :=
  let whole := text.takeWhile Char.isDigit
  if whole = [] then none
  else match text.dropWhile Char.isDigit with
    | [] => some ⟨Nat.ofDigitChars 10 whole 0, 0⟩
    | '.' :: fraction =>
      if fraction ≠ [] ∧ fraction.all Char.isDigit then
        some ⟨Nat.ofDigitChars 10 (whole ++ fraction) 0, fraction.length⟩
      else none
    | _ => none

/-- The nearest binary64 number. -/
def toBinary64 (d : Decimal) : Binary64 := Binary64.ofRatio d.digits (Nat.pow 10 d.places)

/-! ### Writing -/

/-- The digits of `n`, filled up with zeros on the left to at least `width`. -/
def padded (width n : Nat) : List Char :=
  let shown := Nat.toDigits 10 n
  List.replicate (width - shown.length) '0' ++ shown

/-- Plain positional notation; a whole number has no point. -/
def write (d : Decimal) : List Char :=
  let whole := Nat.toDigits 10 (d.digits / Nat.pow 10 d.places)
  if d.places = 0 then whole
  else whole ++ '.' :: padded d.places (d.digits % Nat.pow 10 d.places)

theorem write_whole (n : Nat) : write ⟨n, 0⟩ = Nat.toDigits 10 n := by
  simp [write]

end Decimal

/-! ### Text of binary64 numbers -/

namespace Binary64

/-- The decimals with `places` places next to the absolute value, below (or at it) and above. -/
def neighbours (x : Binary64) (places : Nat) : Decimal × Decimal :=
  let below := x.units * Nat.pow 10 places / unitsPerOne
  (⟨below, places⟩, ⟨below + 1, places⟩)

/-- Whether a decimal reads back as the absolute value of `x`. -/
def readsBack (x : Binary64) (d : Decimal) : Bool := d.toBinary64 = x.abs

/-- The neighbours, the nearer one first, and the upper one if they are equally near. -/
def candidates (x : Binary64) (places : Nat) : List Decimal :=
  let both := x.neighbours places
  if 2 * (x.units * Nat.pow 10 places % unitsPerOne) < unitsPerOne then [both.1, both.2]
  else [both.2, both.1]

/-- The decimal with `places` places that reads back and is nearest, if there is one. -/
def nearest? (x : Binary64) (places : Nat) : Option Decimal :=
  (x.candidates places).find? x.readsBack

/-- The exact value, which never needs more than 1074 places. -/
def exact (x : Binary64) : Decimal := ⟨x.units * Nat.pow 5 1074, 1074⟩

/-- The decimal with the fewest places, at least one, that reads back. -/
def shortest (x : Binary64) : Decimal :=
  ((List.range' 1 1074).findSome? x.nearest?).getD x.exact

/-- The decimal that stands for the absolute value of a finite number in text. -/
def toDecimal (x : Binary64) : Decimal :=
  if x.isWhole then ⟨x.units / unitsPerOne, 0⟩ else x.shortest

/-- The text of a number: a minus for a set sign bit, then plain decimal notation without an
exponent, or the word for an infinity; a NaN has no sign. -/
def text (x : Binary64) : String :=
  if x.isNaN then "NaN"
  else
    let unsigned := if x.isInfinite then "inf".toList else x.toDecimal.write
    String.ofList (if x.negative then '-' :: unsigned else unsigned)

end Binary64

end LoxLexer
