import LoxLexer.Log.Filter
import LoxLexer.Scan
import LoxLexer.Text.Quoted

/-!
# Log events

What happens during the scan of a script, as it is logged: the script is opened, tokens and errors
are found one after another, and the scan is finished.
-/

namespace LoxLexer

/-- Something that is logged. -/
inductive Event where
  /-- A script was read and its scan begins. -/
  | opened (path : String) (bytes : Nat)
  /-- A token was found. -/
  | token (found : Token)
  /-- An error was found. -/
  | error (found : ScanError)
  /-- A scan ended with so many tokens on so many lines. -/
  | finished (tokens lines : Nat)
  deriving DecidableEq, Repr

namespace Event

/-- The level of an event. -/
def level : Event → Level
  | opened .. => .debug
  | token _ => .trace
  | error _ => .debug
  | finished .. => .debug

/-- The part of the program that an event comes from. -/
def target : Event → String
  | opened .. => "lox"
  | _ => "lox_scan::scanner"

/-- The names of the fields in the record of an event. -/
def fields : Event → List String
  | opened .. => ["message", "script", "bytes"]
  | token _ => ["message", "token", "position"]
  | error _ => ["message", "line", "error"]
  | finished .. => ["message", "tokens", "lines"]

/-- What an event says. -/
def message : Event → String
  | opened path bytes =>
    "scanning script script=" ++ String.ofList (quoted path.toList) ++
      " bytes=" ++ toString bytes
  | token found => "token token=" ++ found.display ++ " position=" ++ found.position
  | error found =>
    "lexical error line=" ++ toString found.line ++ " error=" ++ found.message
  | finished tokens lines =>
    "scan finished tokens=" ++ toString tokens ++ " lines=" ++ toString lines

/-- The record of an event. -/
def record (e : Event) : String := e.level.name ++ " " ++ e.target ++ ": " ++ e.message

/-- The first line of the record; only the text of a token can add more. -/
def headline (e : Event) : String := String.ofList ((lines e.record.toList).headD [])

/-- The event of a finding. -/
def ofFinding : Finding → Event
  | .token found => token found
  | .error found => error found

/-- Whether a filter lets an event through. -/
def admittedBy (f : Filter) (e : Event) : Bool := f.admits e.target e.fields e.level

end Event

end LoxLexer
