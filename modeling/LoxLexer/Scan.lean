import LoxLexer.Element.Located
import LoxLexer.ScanError

/-!
# Scanning

Scanning a text finds its tokens and its lexical errors in one sequence, in the order in which they
are found, which is the order of the source. No error stops a scan, and the last finding is always
the token for the end of the text. Blanks and comments are not findings.
-/

namespace LoxLexer

/-- Something that a scan finds. -/
inductive Finding where
  /-- A token. -/
  | token (found : Token)
  /-- A lexical error. -/
  | error (found : ScanError)
  deriving DecidableEq, Repr

namespace Finding

/-- The token, if a token was found. -/
def token? : Finding → Option Token
  | token found => some found
  | error _ => none

/-- The error, if an error was found. -/
def error? : Finding → Option ScanError
  | token _ => none
  | error found => some found

end Finding

/-- The token with this kind and text at this place. -/
def Token.at (place : Place) (kind : Kind) (lexeme : List Char) : Token :=
  { kind
    lexeme := String.ofList lexeme
    literal := kind.literal? lexeme
    line := place.line
    span := ⟨place.offset, place.offset + byteLength lexeme⟩ }

/-- The token for the end of a text. -/
def Token.endOfText (place : Place) : Token := Token.at place .endOfText []

/-- What an element at a place counts for. A string that is never closed is reported at the line
where the text ends, everything else where it begins. -/
def Located.finding? (l : Located) : Option Finding :=
  match l.element with
  | .token kind lexeme => some (.token (Token.at l.place kind lexeme))
  | .stray c =>
    some (.error ⟨.unexpectedCharacter c, l.place.line, ⟨l.place.offset, c.utf8Size⟩⟩)
  | .openString _ =>
    some (.error
      ⟨.unterminatedString, l.next.line, ⟨l.place.offset, byteLength l.element.text⟩⟩)
  | .blank _ => none
  | .comment _ => none

/-- What is found in a text that begins at `place`. -/
def findingsFrom (place : Place) (text : List Char) : List Finding :=
  (locate place (elements text)).filterMap Located.finding? ++
    [.token (Token.endOfText (place.after text))]

/-- The result of a scan. -/
structure Scan where
  /-- Tokens and errors in the order found. -/
  findings : List Finding
  deriving DecidableEq, Repr

namespace Scan

/-- The tokens in source order; the last one is the end of the text. -/
def tokens (s : Scan) : List Token := s.findings.filterMap Finding.token?

/-- The errors in source order. -/
def errors (s : Scan) : List ScanError := s.findings.filterMap Finding.error?

end Scan

/-- Scans a source text. -/
def scan (source : String) : Scan := ⟨findingsFrom Place.start source.toList⟩

end LoxLexer
