import LoxLexer.Command.Outcome

/-!
# The console reporter

On the command line, errors are told as they are found. The console reporter draws each of them into
the source, then writes its report, and remembers that there was one. Log records go to the same
place, so all that is written is one sequence of notes.

How an error is drawn is not said here: a `Drawing` is a parameter of the command.
-/

namespace LoxLexer

/-! ### Drawings -/

/-- How a lexical error is shown to a reader, with its place in the source. -/
structure Drawing where
  /-- The drawing of an error in a source with this name and this text. -/
  draw : ScanError → String → String → String

namespace Drawing

/-- The line and the column of a byte in a text, both counted from one. -/
def position (source : String) (offset : Nat) : String :=
  let before := source.toUTF8.data.toList.take offset
  let column := before.reverse.takeWhile (· ≠ 10)
  toString (before.count 10 + 1) ++ ":" ++ toString (column.length + 1)

/-- The lines of an outline above the line that names the source. -/
def above (e : ScanError) : List String := [e.fault.code, "", "  × " ++ e.message]

/-- The lines below it. -/
def below (e : ScanError) : List String :=
  ["   · " ++ e.fault.label, "   ╰────"] ++ e.fault.help?.toList.map ("  help: " ++ ·)

/-- The outline of a drawing: what is wrong, the place in the source, the label of the region that
is wrong and what to do about it, without colours and without lines of the source. -/
def outline : Drawing where
  draw e name source :=
    let place := "   ╭─[" ++ name ++ ":" ++ position source e.region.offset ++ "]"
    String.join ((above e ++ place :: below e).map (· ++ "\n"))

end Drawing

/-! ### The reporter -/

/-- Writes errors to standard error as they are found. -/
structure ConsoleReporter where
  /-- How errors are drawn. -/
  drawing : Drawing
  /-- The name of the source. -/
  name : String
  /-- The text of the source. -/
  source : String
  /-- Whether there was an error. -/
  hadError : Bool
  /-- What was written to standard error, log records included. -/
  notes : List Note

/-- The log record of an event, if the filter admits it. -/
def Event.notes (filter : Filter) (e : Event) : List Note :=
  if e.admittedBy filter then [.event e] else []

namespace ConsoleReporter

/-- A reporter that has no source yet. -/
def new (drawing : Drawing) : ConsoleReporter := ⟨drawing, "", "", false, []⟩

/-- The errors to come are those of this source. -/
def setSource (console : ConsoleReporter) (name source : String) : ConsoleReporter :=
  { console with name, source }

/-- Writes notes. -/
def write (console : ConsoleReporter) (notes : List Note) : ConsoleReporter :=
  { console with notes := console.notes ++ notes }

/-- Writes a report and remembers that there was an error. -/
def report (console : ConsoleReporter) (reported : Report) : ConsoleReporter :=
  { console.write [.report reported] with hadError := true }

/-- The drawing of an error in the source. -/
def diagnostic (console : ConsoleReporter) (e : ScanError) : Note :=
  .diagnostic (console.drawing.draw e console.name console.source)

instance : Reporter ConsoleReporter where
  report := report
  hadError := hadError
  reset console := { console with hadError := false }
  reportScanError console e := (console.write [console.diagnostic e]).report e.report

/-- Takes the record of an event, if the filter admits it. -/
def log (filter : Filter) (console : ConsoleReporter) (e : Event) : ConsoleReporter :=
  console.write (e.notes filter)

/-- Takes a finding: its log record, then the error if it is one. -/
def take (filter : Filter) (console : ConsoleReporter) (f : Finding) : ConsoleReporter :=
  f.reportTo (console.log filter (.ofFinding f))

end ConsoleReporter

end LoxLexer
