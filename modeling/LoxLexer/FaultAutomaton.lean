import LoxLexer.Scan

/-!
# The fault automaton

A reader that knows nothing of tokens and finds lexical errors character by character. It is in one
of three modes: in code, in a string or in a comment. In code, two slashes begin a comment and a
quote begins a string; a newline ends the one and a quote the other.
-/

namespace LoxLexer

/-- Where the automaton is. -/
inductive Mode where
  /-- Outside of strings and comments. -/
  | code
  /-- In a string whose quote is at this offset. -/
  | string (quote : Nat)
  /-- In a comment. -/
  | comment
  deriving DecidableEq, Repr

/-- The characters that mean something in code, other than the quote. -/
def isCodeChar (c : Char) : Bool :=
  isWordPart c || isBlank c || "()\x7b\x7d,.-+;*/!=<>".toList.contains c

namespace Mode

/-- The mode after the character `c` at `offset`, before `rest`. -/
def next (mode : Mode) (offset : Nat) (c : Char) (rest : List Char) : Mode :=
  match mode with
  | code =>
    if c = '"' then string offset
    else if c = '/' ∧ rest.head? = some '/' then comment
    else code
  | string quote => if c = '"' then code else string quote
  | comment => if c = '\n' then code else comment

/-- Whether the character `c` is an error in this mode. -/
def rejects (mode : Mode) (c : Char) : Bool := mode = code && c ≠ '"' && !isCodeChar c

/-- The errors from a place on to the end of the text. -/
def errors (mode : Mode) (place : Place) : List Char → List ScanError
  | [] =>
    match mode with
    | string quote => [⟨.unterminatedString, place.line, ⟨quote, place.offset - quote⟩⟩]
    | _ => []
  | c :: rest =>
    let later := errors (mode.next place.offset c rest) (place.after [c]) rest
    if mode.rejects c then
      ⟨.unexpectedCharacter c, place.line, ⟨place.offset, c.utf8Size⟩⟩ :: later
    else later

end Mode

/-- The lexical errors of a text, as the automaton finds them. -/
def automatonErrors (source : String) : List ScanError :=
  Mode.code.errors Place.start source.toList

end LoxLexer
