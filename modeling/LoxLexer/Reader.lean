import LoxLexer.Scan
import LoxLexer.Text.Slice

/-!
# Reading with a cursor

A reader goes over a source step by step and keeps no more of it than two byte offsets and a line
counter: where the element that it reads begins, and where the next character is. It looks at the
next character or two, moves on, and cuts the text of a token out of the source when it has come to
its end. A step has no result where it would have to cut the source inside of a character, behind
its end or from a later place to an earlier one, or to convert a text that is no number.

A reader finds what a scan finds, by steps of bounded work instead of by lists of characters. It
also keeps count of the elements that it has begun and of the characters that it has missed, which
nothing depends on.
-/

namespace LoxLexer

/-- Where a reader is in its program. -/
inductive Point where
  /-- In front of the next element, or of the end. -/
  | next
  /-- In a comment. -/
  | comment
  /-- In a string. -/
  | string
  /-- Behind the closing quote of a string, of which the value is still to be taken. -/
  | closed
  /-- In the digits that begin a number. -/
  | digits
  /-- Behind the point in a number. -/
  | fraction
  /-- Behind the last digit of a number, which is still to be converted. -/
  | number
  /-- In a word. -/
  | word
  /-- Behind everything, with the end of the text noted. -/
  | done
  deriving DecidableEq, Repr

/-- A reader of a source. -/
structure Reader where
  /-- Where it is in its program. -/
  point : Point
  /-- The offset of the element that it reads. -/
  start : Nat
  /-- The offset of the next character. -/
  current : Nat
  /-- The line of the next character. -/
  line : Nat
  /-- The line of the element that it reads. -/
  startLine : Nat
  /-- What it has found so far. -/
  findings : List Finding
  /-- How many elements it has begun to read. -/
  rounds : Nat
  /-- How often it took a NUL for a character because none was left. -/
  standIns : Nat
  deriving DecidableEq, Repr

namespace Reader

/-- A reader that has read nothing. -/
def fresh : Reader := ⟨.next, 0, 0, 1, 1, [], 0, 0⟩

/-! ### What a reader does with its source -/

variable (source : List Char) (r : Reader)

/-- Whether all bytes are read. -/
def atEnd : Bool := byteLength source ≤ r.current

/-- The text that is not read yet. -/
def unread? : Option (List Char) := (splitBytes? source r.current).map Prod.snd

/-- The next character, if one is left. -/
def peek? : Option (Option Char) := (r.unread? source).map List.head?

/-- Whether a point and a digit come next. -/
def fractionFollows? : Option Bool :=
  (r.unread? source).map fun
    | '.' :: d :: _ => d.isDigit
    | _ => false

/-- Takes the next character; where none is left, a NUL stands in for it. -/
def advance? : Option (Char × Reader) :=
  (r.unread? source).map fun
    | c :: _ => (c, { r with current := r.current + c.utf8Size })
    | [] => ('\x00', { r with current := r.current + '\x00'.utf8Size, standIns := r.standIns + 1 })

/-- Takes the next character if it is the expected one. -/
def matches? (expected : Char) : Option (Bool × Reader) :=
  (r.peek? source).map fun c =>
    if c = some expected then (true, { r with current := r.current + expected.utf8Size })
    else (false, r)

/-- The text of the element as far as it is read. -/
def lexeme? : Option (List Char) := slice? source r.start r.current

/-- Notes a token with this kind and value, and the text read since its start. -/
def note? (kind : Kind) (literal : Option Literal) : Option Reader :=
  (r.lexeme? source).map fun lexeme =>
    { r with
      point := .next
      findings := r.findings ++
        [.token ⟨kind, String.ofList lexeme, literal, r.startLine, ⟨r.start, r.current⟩⟩] }

/-- Notes a fault in the text read since the start of the element. -/
def report (fault : Fault) : Reader :=
  { r with
    point := .next
    findings := r.findings ++ [.error ⟨fault, r.line, ⟨r.start, r.current - r.start⟩⟩] }

/-! ### Steps -/

/-- Begins a new element. -/
def begin : Reader :=
  { r with start := r.current, startLine := r.line, rounds := r.rounds + 1 }

/-- What follows from the first character of an element. -/
def dispatch? (c : Char) : Option Reader :=
  match Kind.ofSymbol? c with
  | some kind => r.note? source kind none
  | none =>
    match Kind.ofOperator? c with
    | some (plain, joined) => do
      let (found, r) ← r.matches? source '='
      r.note? source (if found then joined else plain) none
    | none =>
      if c = '/' then do
        let (found, r) ← r.matches? source '/'
        if found then some { r with point := .comment } else r.note? source .slash none
      else if c = '"' then some { r with point := .string }
      else if c = '\n' then some { r with line := r.line + 1 }
      else if isBlank c then some r
      else if c.isDigit then some { r with point := .digits }
      else if isWordStart c then some { r with point := .word }
      else some (r.report (.unexpectedCharacter c))

/-- Takes the next character and goes on at a point. -/
def moveTo? (point : Point) : Option Reader :=
  (r.advance? source).map fun (_, r) => { r with point }

/-- One step in front of an element: its first character, or the end of the text. -/
def stepNext? : Option Reader :=
  if r.atEnd source then do
    let r ← { r with start := r.current, startLine := r.line }.note? source .endOfText none
    some { r with point := .done }
  else do
    let (c, r) ← r.begin.advance? source
    r.dispatch? source c

/-- One step in a comment, which goes on up to a newline. -/
def stepComment? : Option Reader := do
  let c ← r.peek? source
  if c ≠ some '\n' ∧ ¬ r.atEnd source then r.moveTo? source .comment
  else some { r with point := .next }

/-- Counts the line that the next character ends, if it is a newline. -/
def countLine (c : Option Char) : Reader :=
  { r with line := if c = some '\n' then r.line + 1 else r.line }

/-- One step in a string, which goes on up to a quote; its newlines count. -/
def stepString? : Option Reader := do
  let c ← r.peek? source
  if c ≠ some '"' ∧ ¬ r.atEnd source then
    (r.countLine c).moveTo? source .string
  else if r.atEnd source then some (r.report .unterminatedString)
  else r.moveTo? source .closed

/-- The step behind a string: its value stands between the quotes. -/
def stepClosed? : Option Reader := do
  let value ← slice? source (r.start + 1) (r.current - 1)
  r.note? source .string (some (.text (String.ofList value)))

/-- One step in the digits of a number. -/
def stepDigits? : Option Reader := do
  let c ← r.peek? source
  if c.any Char.isDigit then r.moveTo? source .digits
  else do
    let fraction ← r.fractionFollows? source
    if fraction then r.moveTo? source .fraction else some { r with point := .number }

/-- One step behind the point of a number. -/
def stepFraction? : Option Reader := do
  let c ← r.peek? source
  if c.any Char.isDigit then r.moveTo? source .fraction else some { r with point := .number }

/-- The step behind a number: its text is converted. -/
def stepNumber? : Option Reader := do
  let lexeme ← r.lexeme? source
  let d ← Decimal.read? lexeme
  r.note? source .number (some (.number d.toBinary64))

/-- One step in a word. -/
def stepWord? : Option Reader := do
  let c ← r.peek? source
  if c.any isWordPart then r.moveTo? source .word
  else do
    let lexeme ← r.lexeme? source
    r.note? source (Kind.ofWord lexeme) none

/-- One step of a reader. When it is done, it stays as it is. -/
def step? : Option Reader :=
  match r.point with
  | .next => r.stepNext? source
  | .comment => r.stepComment? source
  | .string => r.stepString? source
  | .closed => r.stepClosed? source
  | .digits => r.stepDigits? source
  | .fraction => r.stepFraction? source
  | .number => r.stepNumber? source
  | .word => r.stepWord? source
  | .done => some r

end Reader

/-- What becomes of a reader in some steps. -/
def Reader.run? (source : List Char) : Nat → Reader → Option Reader
  | 0, r => some r
  | steps + 1, r => (r.step? source).bind (run? source steps)

end LoxLexer
