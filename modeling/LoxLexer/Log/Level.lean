/-!
# Log levels and limits

The level of a log record says how important it is, and a limit says which levels are logged: none,
or all up to one level of detail. A limit is written as a word, in letters of either case, or as the
number of that word, counted from zero.
-/

namespace LoxLexer

/-- How important a record is, the most important first. -/
inductive Level where
  /-- Something failed. -/
  | error
  /-- Something looks wrong. -/
  | warn
  /-- Something worth knowing. -/
  | info
  /-- What a developer wants to see. -/
  | debug
  /-- Every single thing. -/
  | trace
  deriving DecidableEq, Repr

namespace Level

/-- The place of a level in the order of detail. -/
def detail : Level → Nat
  | error => 1
  | warn => 2
  | info => 3
  | debug => 4
  | trace => 5

/-- The name of a level in a record. -/
def name : Level → String
  | error => "ERROR"
  | warn => "WARN"
  | info => "INFO"
  | debug => "DEBUG"
  | trace => "TRACE"

end Level

/-- Which levels are logged. -/
inductive Limit where
  /-- None. -/
  | off
  /-- All up to this level of detail. -/
  | upTo (most : Level)
  deriving DecidableEq, Repr

namespace Limit

/-- Whether records of a level are logged. -/
def admits : Limit → Level → Bool
  | off, _ => false
  | upTo most, level => level.detail ≤ most.detail

/-- The limit that admits every level. -/
def everything : Limit := upTo .trace

@[simp] theorem admits_everything (level : Level) : everything.admits level = true := by
  cases level <;> rfl

/-! ### Reading -/

/-- The words for limits, in the order of their numbers. -/
def words : List (String × Limit) :=
  [("off", off), ("error", upTo .error), ("warn", upTo .warn), ("info", upTo .info),
    ("debug", upTo .debug), ("trace", upTo .trace)]

/-- Reads the number of a word: digits, with or without a plus sign before them. -/
def readNumber? (text : List Char) : Option Nat :=
  let digits := if text.head? = some '+' then text.tail else text
  if digits ≠ [] ∧ digits.all Char.isDigit then some (Nat.ofDigitChars 10 digits 0) else none

/-- Reads a limit. -/
def read? (text : List Char) : Option Limit :=
  match readNumber? text with
  | some n => (words.map Prod.snd)[n]?
  | none => words.lookup (String.ofList (text.map Char.toLower))

end Limit

end LoxLexer
