import LoxLexer.Log.Event
import LoxLexer.Report

/-!
# Outcomes

What a run of the command leaves: an exit status, a text on standard output, and notes on standard
error. A note is a log record, the drawing of a lexical error or its report, or a complaint about
the run itself. Standard error is one text; its lines that look like reports make up the summary of
the run. A run that fails, arguments that are refused apart, has a cause with an exit status of its
own.
-/

namespace LoxLexer

/-! ### Failures -/

/-- Why the command fails. -/
inductive Failure where
  /-- It was not used as this text says. -/
  | usage (text : String)
  /-- The script at the path could not be read, for the cause given. -/
  | unreadable (path cause : String)
  /-- The handler that draws errors was already in place. -/
  | handlerTaken
  deriving DecidableEq, Repr

namespace Failure

/-- The exit status. -/
def exitStatus : Failure → Nat
  | usage _ => 64
  | unreadable .. => 74
  | handlerTaken => 70

/-- What failed. -/
def message : Failure → String
  | usage text => "Usage: " ++ text
  | unreadable path _ => "Could not read from file " ++ path
  | handlerTaken => "Could not install diagnostic handler"

/-- What had failed before. -/
def cause? : Failure → Option String
  | usage _ => none
  | unreadable _ cause => some cause
  | handlerTaken =>
    some "cannot install provided ErrorHook, a hook has already been installed"

/-- The failure as it is printed, each part on a line of its own. -/
def display (f : Failure) : String :=
  f.message ++ "\n" ++
    match f.cause? with
    | some cause => "  caused by: " ++ cause ++ "\n"
    | none => ""

end Failure

/-! ### Notes -/

/-- Something written to standard error. -/
inductive Note where
  /-- A log record. -/
  | event (logged : Event)
  /-- The drawing of a lexical error. -/
  | diagnostic (drawn : String)
  /-- The report of a lexical error. -/
  | report (reported : Report)
  /-- Why the run failed. -/
  | complaint (text : String)
  deriving DecidableEq, Repr

namespace Note

/-- The text of a note; all but complaints end their last line themselves. -/
def text : Note → String
  | event logged => logged.record ++ "\n"
  | diagnostic drawn => drawn ++ "\n"
  | report reported => reported.display ++ "\n"
  | complaint text => text

/-- The event of a log record. -/
def event? : Note → Option Event
  | event logged => some logged
  | _ => none

/-- The text of a complaint. -/
def complaint? : Note → Option String
  | complaint text => some text
  | _ => none

end Note

/-! ### Outcomes -/

/-- What a run leaves. -/
structure Outcome where
  /-- The exit status. -/
  exitStatus : Nat
  /-- What is written to standard output. -/
  stdout : String
  /-- What is written to standard error, in order. -/
  notes : List Note
  deriving DecidableEq, Repr

namespace Outcome

/-- The text on standard error. Left out are the time stamps of log records, the blanks that align
their levels, and the colours that a terminal may be sent with them. -/
def stderr (o : Outcome) : String := String.join (o.notes.map Note.text)

/-- The logged events. -/
def events (o : Outcome) : List Event := o.notes.filterMap Note.event?

/-- The first lines of the log records. -/
def log (o : Outcome) : List String := o.events.map Event.headline

/-- The complaints, as one text. -/
def complaint (o : Outcome) : String := String.join (o.notes.filterMap Note.complaint?)

/-- How the line of a report begins. -/
def reportMark : List Char := "[line ".toList

/-- The lines on standard error that begin as reports do. -/
def summary (o : Outcome) : List String :=
  ((lines o.stderr.toList).filter reportMark.isPrefixOf).map String.ofList

/-- Whether the run did what it was asked for, with or without lexical errors. -/
def completed (o : Outcome) : Bool := o.exitStatus = 0 || o.exitStatus = 65

end Outcome

end LoxLexer
