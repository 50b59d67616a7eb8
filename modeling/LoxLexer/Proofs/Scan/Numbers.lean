import LoxLexer.Proofs.Number.Text
import LoxLexer.Proofs.Scan.Closing
import LoxLexer.Proofs.Scan.Spaced

/-!
# Numbers in a source

The literal of a number in a source is the number that its digits stand for, rounded to nearest,
ties to even: **`literal_number`**. And the text of a finite number is scanned as that number, with
a minus in front of it if it has a sign: **`scan_display`**. Both rest on what rounds to a number,
the second one through the decimal that is written, which reads back
(`Binary64.roundsTo_toDecimal`).
-/

namespace LoxLexer

/-- The number that a numeral stands for. -/
structure Binary64.IsRead (x : Binary64) (numeral : List Char) : Prop where
  /-- It is the one number that the value of the numeral rounds to. -/
  rounded : ∀ y, Binary64.RoundsTo (numeralValue numeral) y ↔ y = x
  /-- It is infinite from the overflow on. -/
  infinite : x.isInfinite = true ↔ Binary64.overflow ≤ numeralValue numeral
  /-- It has no sign. -/
  unsigned : x.negative = false
  /-- It is a number. -/
  number : x.isNaN = false

/-- **Every number in a source is rounded to nearest, ties to even.** -/
theorem literal_number {source : String} {t : Token} (h : t ∈ (scan source).tokens)
    (number : t.kind = .number) : Lexeme .number t.lexeme.toList ∧
      ∃ x : Binary64, t.literal = some (.number x) ∧ x.IsRead t.lexeme.toList := by
  obtain ⟨lexeme, literal⟩ := lexeme_of_mem_tokens h
  rw [number] at lexeme literal
  have numeral := lexeme.resolve_right fun last => Kind.noConfusion last.1
  obtain ⟨d, read, value⟩ := numeral.exists_value
  have rounds : Binary64.RoundsTo d.value d.toBinary64 := Decimal.roundsTo_iff.2 rfl
  have positive := d.value_nonneg
  refine ⟨numeral, d.toBinary64, by rw [literal, Kind.literal?, read]; rfl, ?_⟩
  constructor
  case rounded =>
    intro y
    rw [← value, Decimal.roundsTo_iff, eq_comm]
  case infinite => rw [rounds.isInfinite_iff, abs_of_nonneg positive, value]
  case unsigned =>
    rw [← Bool.not_eq_true, rounds.negative_iff, not_lt]
    exact positive
  case number => exact rounds.isNaN

/-- A tie is broken by the last of many digits. -/
theorem literal_number_tie :
    ((⟨.number, "9007199254740993.00000000000000000001", some (.number ⟨0x4340000000000001⟩), 1,
          ⟨0, 37⟩⟩ : Token) ∈ (scan "9007199254740993.00000000000000000001").tokens ∧
        Kind.number = .number) ∧
      Lexeme .number "9007199254740993.00000000000000000001".toList ∧
        ∃ x : Binary64, some (Literal.number ⟨0x4340000000000001⟩) = some (.number x) ∧
          x.IsRead "9007199254740993.00000000000000000001".toList := by
  have mem : (⟨.number, "9007199254740993.00000000000000000001",
      some (.number ⟨0x4340000000000001⟩), 1, ⟨0, 37⟩⟩ : Token) ∈
        (scan "9007199254740993.00000000000000000001").tokens := by decide +kernel
  exact ⟨⟨mem, rfl⟩, literal_number mem rfl⟩

/-! ### Written numbers -/

/-- The minus in front of a number is a token. -/
def Written.minus : Written := ⟨.minus, ['-'], .of_spelling? rfl⟩

/-- A decimal is a numeral. -/
def Written.decimal (d : Decimal) : Written := ⟨.number, d.write, d.lexeme_write⟩

/-- In a decimal, behind any text, nothing but its number is found. -/
theorem foundFrom_decimal (d : Decimal) (p : Place) :
    foundFrom p d.write = [.token (Token.at p .number d.write)] := by
  have := foundFrom_written (.decimal d) .nil p
  rwa [List.append_nil, foundFrom_nil] at this

theorem foundFrom_minus (p : Place) (rest : List Char) :
    foundFrom p ('-' :: rest) =
      .token (Token.at p .minus ['-']) :: foundFrom (p.after ['-']) rest :=
  foundFrom_written .minus (.of_isClosed rfl) p

/-- The literal of a written decimal is the number that it is read as. -/
theorem literal?_write (d : Decimal) :
    Kind.number.literal? d.write = some (.number d.toBinary64) := by
  rw [Kind.literal?, d.read?_write]
  rfl

/-- A minus if the sign bit is set, then the number without its sign, with the given digits as its
text, and the end. -/
def Binary64.textTokens (x : Binary64) (digits : List Char) : List Token :=
  let sign := byteLength x.minusSign
  let total := byteLength (x.minusSign ++ digits)
  (if x.negative then [⟨.minus, "-", none, 1, ⟨0, 1⟩⟩] else []) ++
    [⟨.number, String.ofList digits, some (.number x.abs), 1, ⟨sign, total⟩⟩,
      ⟨.endOfText, "", none, 1, ⟨total, total⟩⟩]

/-- In the text of a finite number only a minus and the number without its sign are found. -/
theorem foundFrom_text (x : Binary64) (d : Decimal) :
    foundFrom Place.start (x.minusSign ++ d.write) =
      (if x.negative then [.token ⟨.minus, "-", none, 1, ⟨0, 1⟩⟩] else []) ++
        [.token ((Written.decimal d).behind x.minusSign)] := by
  rw [← at_after_start, Binary64.minusSign]
  cases x.negative
  case false => exact foundFrom_decimal _ _
  case true => exact (foundFrom_minus _ _).trans (congrArg _ (foundFrom_decimal _ _))

/-- **The text of a finite number is scanned as the number.** -/
theorem scan_display {x : Binary64} (finite : x.isFinite = true) :
    (scan (Literal.number x).display).errors = [] ∧
      ∃ digits, (Literal.number x).display.toList = x.minusSign ++ digits ∧
        (scan (Literal.number x).display).tokens = x.textTokens digits := by
  have text : (Literal.number x).display.toList = x.minusSign ++ x.toDecimal.write :=
    x.text_of_finite finite
  have literal : Kind.number.literal? x.toDecimal.write = some (.number x.abs) := by
    rw [literal?_write, Decimal.roundsTo_iff.1 (Binary64.roundsTo_toDecimal finite)]
  have sign : newlines x.minusSign = 0 := by
    rw [Binary64.minusSign]
    split <;> rfl
  have digits : newlines x.toDecimal.write = 0 :=
    List.count_eq_zero.2 x.toDecimal.newline_not_mem_write
  rw [errors_scan, tokens_scan, text, foundFrom_text]
  refine ⟨?_, x.toDecimal.write, rfl, ?_⟩
  · cases x.negative <;> rfl
  · rw [Token.endOfText_start, newlines_append, sign, digits, List.filterMap_append,
      List.append_assoc, Binary64.textTokens]
    congr 1
    · cases x.negative <;> rfl
    · simp [Written.behind, Finding.token?, Written.decimal, literal, sign]

/-- The negative number next to zero is written with more than three hundred zeros. -/
theorem scan_display_least :
    (⟨0x8000000000000001⟩ : Binary64).isFinite = true ∧
      (scan (Literal.number ⟨0x8000000000000001⟩).display).errors = [] ∧
      ∃ digits, (Literal.number ⟨0x8000000000000001⟩).display.toList =
          (⟨0x8000000000000001⟩ : Binary64).minusSign ++ digits ∧
        (scan (Literal.number ⟨0x8000000000000001⟩).display).tokens =
          (⟨0x8000000000000001⟩ : Binary64).textTokens digits := by
  have finite : (⟨0x8000000000000001⟩ : Binary64).isFinite = true := by decide
  exact ⟨finite, scan_display finite⟩

end LoxLexer
