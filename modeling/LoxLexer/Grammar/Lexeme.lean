import LoxLexer.Text.Class
import LoxLexer.Token.Kind

/-!
# The lexical grammar

Which texts are tokens, said as a grammar and without scanning: `Lexeme kind text` holds of the
texts that a token of a kind may have. Comments are the only other words of the grammar; a scanner
reads them like words, but they are no tokens.
-/

namespace LoxLexer

/-- The one text of a kind, for the kinds that have only one. -/
def Kind.spelling? : Kind → Option String
  | leftParen => some "("
  | rightParen => some ")"
  | leftBrace => some "\x7b"
  | rightBrace => some "\x7d"
  | comma => some ","
  | dot => some "."
  | minus => some "-"
  | plus => some "+"
  | semicolon => some ";"
  | slash => some "/"
  | star => some "*"
  | bang => some "!"
  | bangEqual => some "!="
  | equal => some "="
  | equalEqual => some "=="
  | greater => some ">"
  | greaterEqual => some ">="
  | less => some "<"
  | lessEqual => some "<="
  | keyword word => some word.spelling
  | endOfText => none
  | identifier => none
  | string => none
  | number => none

/-- The texts of the tokens of a kind. -/
inductive Lexeme : Kind → List Char → Prop where
  /-- A kind with one spelling has that text. -/
  | fixed {kind : Kind} {spelling : String} (h : kind.spelling? = some spelling) :
      Lexeme kind spelling.toList
  /-- An identifier is a word that is not reserved. -/
  | identifier {c : Char} {rest : List Char} (start : isWordStart c = true)
      (parts : ∀ d ∈ rest, isWordPart d = true)
      (free : ∀ word : Keyword, word.spelling.toList ≠ c :: rest) :
      Lexeme .identifier (c :: rest)
  /-- A number may be digits alone. -/
  | whole {digits : List Char} (nonempty : digits ≠ []) (all : ∀ d ∈ digits, d.isDigit = true) :
      Lexeme .number digits
  /-- A number may be digits, a point and digits. -/
  | decimal {digits fraction : List Char} (nonempty : digits ≠ [])
      (all : ∀ d ∈ digits, d.isDigit = true) (nonemptyFraction : fraction ≠ [])
      (allFraction : ∀ d ∈ fraction, d.isDigit = true) :
      Lexeme .number (digits ++ '.' :: fraction)
  /-- A string is any text without a quote, between quotes. -/
  | string {body : List Char} (h : '"' ∉ body) : Lexeme .string ('"' :: body ++ ['"'])

/-- The texts of comments: two slashes and the rest of a line. -/
inductive IsComment : List Char → Prop where
  /-- What follows the slashes holds no newline. -/
  | line {body : List Char} (h : '\n' ∉ body) : IsComment ('/' :: '/' :: body)

/-- The words of the grammar: the texts of tokens, and comments. -/
def IsWord (text : List Char) : Prop := (∃ kind, Lexeme kind text) ∨ IsComment text

theorem Kind.spelling?_ne_empty (kind : Kind) : kind.spelling? ≠ some "" := by
  cases kind with
  | keyword word => cases word <;> decide
  | _ => decide

theorem Lexeme.ne_nil {kind : Kind} {text : List Char} (h : Lexeme kind text) : text ≠ [] := by
  cases h with
  | fixed h =>
    rintro hn
    rw [String.toList_eq_nil_iff.1 hn] at h
    exact kind.spelling?_ne_empty h
  | identifier => simp
  | whole nonempty => exact nonempty
  | decimal nonempty => simp
  | string => simp

end LoxLexer
