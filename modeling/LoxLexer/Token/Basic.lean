import LoxLexer.Number.Decimal
import LoxLexer.Token.Kind

/-!
# Tokens

A token is a kind with the text it was read from, the value of that text if it has one, the line of
its first character and its place in the source, in bytes. The value is a literal, the text between
the quotes of a string or the number that digits stand for, and follows from the token's kind and
text alone.
-/

namespace LoxLexer

/-! ### Literals -/

/-- The value of a string or number token. -/
inductive Literal where
  /-- A text. -/
  | text (value : String)
  /-- A number. -/
  | number (value : Binary64)
  deriving DecidableEq, Repr

namespace Literal

/-- A text verbatim, a number in plain decimal notation. -/
def display : Literal → String
  | text value => value
  | number value => value.text

/-- Whether two literals are equal as values: texts by their characters, numbers as numbers
compare. -/
def sameValue : Literal → Literal → Bool
  | text a, text b => a = b
  | number a, number b => a.sameValue b
  | _, _ => false

/-- The number, if the literal is one. -/
def number? : Literal → Option Binary64
  | number value => some value
  | text _ => none

/-- The text, if the literal is one. -/
def text? : Literal → Option String
  | text value => some value
  | number _ => none

end Literal

/-- The literal of a token with this kind and lexeme: what stands between the quotes of a string,
or the nearest binary64 to a number. -/
def Kind.literal? (kind : Kind) (lexeme : List Char) : Option Literal :=
  match kind with
  | .string => some (.text (String.ofList lexeme.tail.dropLast))
  | .number => (Decimal.read? lexeme).map fun d => .number d.toBinary64
  | _ => none

/-! ### Tokens -/

/-- A stretch of the source, from the byte offset `start` up to `stop`. -/
structure Span where
  /-- The offset of the first byte. -/
  start : Nat
  /-- The offset after the last byte. -/
  stop : Nat
  deriving DecidableEq, Repr

/-- A token. -/
structure Token where
  /-- What the token is. -/
  kind : Kind
  /-- Its text. -/
  lexeme : String
  /-- Its value, if it has one. -/
  literal : Option Literal
  /-- The line of its first character. -/
  line : Nat
  /-- Its place in the source. -/
  span : Span
  deriving DecidableEq, Repr

namespace Token

/-- The kind and the lexeme, and the literal if there is one. -/
def display (t : Token) : String :=
  t.kind.name ++ " " ++ t.lexeme ++
    match t.literal with
    | some literal => " " ++ literal.display
    | none => ""

/-- The line and the span, in square brackets. -/
def position (t : Token) : String :=
  "[" ++ toString t.line ++ ":" ++ toString t.span.start ++ ".." ++ toString t.span.stop ++ "]"

/-- Whether two optional literals are both absent or equal as values. -/
def sameLiteral : Option Literal → Option Literal → Bool
  | none, none => true
  | some a, some b => a.sameValue b
  | _, _ => false

/-- Whether all fields are equal, literals as values. -/
def sameValue (s t : Token) : Bool :=
  s.kind = t.kind && s.lexeme = t.lexeme && sameLiteral s.literal t.literal &&
    s.line = t.line && s.span = t.span

/-- The number a token carries, if any. -/
def number? (t : Token) : Option Binary64 := t.literal.bind Literal.number?

/-- The text a token carries, if any. -/
def text? (t : Token) : Option String := t.literal.bind Literal.text?

end Token

end LoxLexer
