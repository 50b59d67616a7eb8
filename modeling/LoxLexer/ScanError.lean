import LoxLexer.Token.Basic

/-!
# Lexical errors

What can be wrong with a source text: a character that begins no token, or a string that is never
closed. An error has a line and a region of the source; its cause decides the wording.
-/

namespace LoxLexer

/-- What is wrong. -/
inductive Fault where
  /-- The character begins no token. -/
  | unexpectedCharacter (character : Char)
  /-- The source ends inside a string. -/
  | unterminatedString
  deriving DecidableEq, Repr

namespace Fault

/-- One line that says what is wrong. -/
def message : Fault → String
  | unexpectedCharacter c => "Unexpected character '" ++ String.singleton c ++ "'."
  | unterminatedString => "Unterminated string."

/-- The name of the fault in a hierarchy of names. -/
def code : Fault → String
  | unexpectedCharacter _ => "lox::scan::unexpected_character"
  | unterminatedString => "lox::scan::unterminated_string"

/-- What to do about it, where there is a general remedy. -/
def help? : Fault → Option String
  | unexpectedCharacter _ => none
  | unterminatedString => some "add a closing '\"' before the end of input"

/-- What to write at the region of the source. -/
def label : Fault → String
  | unexpectedCharacter _ => "cannot start a token"
  | unterminatedString => "string starts here and is never closed"

/-- The character that begins no token, if that is the fault. -/
def character? : Fault → Option Char
  | unexpectedCharacter c => some c
  | unterminatedString => none

end Fault

/-- A stretch of the source, by its first byte and its length in bytes. -/
structure Region where
  /-- The offset of the first byte. -/
  offset : Nat
  /-- The number of bytes. -/
  length : Nat
  deriving DecidableEq, Repr

/-- The region from its start to its end. -/
def Region.span (r : Region) : Span := ⟨r.offset, r.offset + r.length⟩

/-- A lexical error. -/
structure ScanError where
  /-- What is wrong. -/
  fault : Fault
  /-- The line it is reported at. -/
  line : Nat
  /-- The part of the source that is wrong. -/
  region : Region
  deriving DecidableEq, Repr

namespace ScanError

/-- One line that says what is wrong. -/
def message (e : ScanError) : String := e.fault.message

/-- The part of the source that is wrong, from start to end. -/
def span (e : ScanError) : Span := e.region.span

end ScanError

end LoxLexer
