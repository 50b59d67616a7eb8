import LoxLexer.Command.Run
import Mathlib.Data.List.Basic

/-!
# Reporters told of the same errors

A scan tells its reporter of one error after another. The error log takes each error as its report,
which is what a reporter does if nothing else is said. The console reporter has a way of its own: it
draws the error first, writes to the place where the log records go, and keeps a flag in place of
the reports. **`Agrees.takeScan`** says that it makes the same of every scan all the same: the
reports that it writes are those that the log adds, and its flag says whether the log holds any. One
finding keeps the two in agreement (`Agrees.take`), and so does a scan, by induction on its
findings.
-/

namespace LoxLexer

/-- The report of a note. -/
def Note.report? : Note → Option Report
  | report reported => some reported
  | _ => none

/-- The error that an event tells of. -/
def Event.error? : Event → Option ScanError
  | error found => some found
  | _ => none

/-- What is written about an event: its log record and, if it is an error, the drawing and the
report. -/
def Event.written (filter : Filter) (diagnostic : ScanError → Note) (e : Event) : List Note :=
  e.notes filter ++
    match e.error? with
    | some d => [diagnostic d, .report d.report]
    | none => []

theorem Event.report?_of_mem_notes {filter : Filter} {e : Event} {n : Note}
    (h : n ∈ e.notes filter) : n.report? = none := by
  rw [notes] at h
  split at h
  · rw [List.mem_singleton.1 h]
    rfl
  · cases h

namespace ConsoleReporter

variable (filter : Filter) (console : ConsoleReporter)

/-! ### What is written -/

theorem diagnostic_take (f : Finding) :
    (console.take filter f).diagnostic = console.diagnostic := by
  cases f <;> rfl

/-- What is written about a finding stands behind all that is there. -/
theorem notes_take (f : Finding) : (console.take filter f).notes =
    console.notes ++ (Event.ofFinding f).written filter console.diagnostic := by
  cases f with
  | token t => exact congrArg (console.notes ++ ·) (List.append_nil _).symm
  | error d =>
    calc (console.take filter (.error d)).notes
        = (console.notes ++ (Event.error d).notes filter) ++ [console.diagnostic d] ++
            [.report d.report] := rfl
      _ = _ := by simp [Event.written, Event.ofFinding, Event.error?]

theorem notes_foldl_take (fs : List Finding) : (fs.foldl (take filter) console).notes =
    console.notes ++ fs.flatMap fun f => (Event.ofFinding f).written filter console.diagnostic := by
  induction fs generalizing console with
  | nil => exact (List.append_nil _).symm
  | cons f fs ih =>
    rw [List.foldl_cons, ih, notes_take, diagnostic_take, List.flatMap_cons, List.append_assoc]

/-! ### Agreement with the log -/

/-- The console reporter and a log were told of the same errors. -/
structure Agrees (console : ConsoleReporter) (log : ErrorLog) : Prop where
  /-- Both know whether there was an error. -/
  hadError : Reporter.hadError console = Reporter.hadError log
  /-- The reports that are written are those in the log. -/
  reports : console.notes.filterMap Note.report? = log.reports

namespace Agrees

variable {filter : Filter} {console : ConsoleReporter} {kept : ErrorLog}

theorem new (drawing : Drawing) : (ConsoleReporter.new drawing).Agrees .empty := ⟨rfl, rfl⟩

theorem setSource (h : console.Agrees kept) (name source : String) :
    (console.setSource name source).Agrees kept := ⟨h.hadError, h.reports⟩

theorem write (h : console.Agrees kept) {notes : List Note}
    (others : ∀ n ∈ notes, n.report? = none) :
    (console.write notes).Agrees kept := by
  refine ⟨h.hadError, ?_⟩
  rw [ConsoleReporter.write, List.filterMap_append, h.reports,
    List.filterMap_eq_nil_iff.2 others, List.append_nil]

theorem log (h : console.Agrees kept) (e : Event) : (console.log filter e).Agrees kept :=
  h.write fun _ => Event.report?_of_mem_notes

/-- A report sets the flag and is one more in the log. -/
theorem report (h : console.Agrees kept) (reported : Report) :
    (Reporter.report console reported).Agrees (Reporter.report kept reported) := by
  constructor
  case hadError =>
    have held : (kept.reports ++ [reported]).isEmpty = false := by simp
    exact (congrArg not held).symm
  case reports =>
    calc (console.notes ++ [Note.report reported]).filterMap Note.report?
        = console.notes.filterMap Note.report? ++ [reported] := List.filterMap_append
      _ = kept.reports ++ [reported] := by rw [h.reports]

/-- The one draws an error and the other does not, and both take its report. -/
theorem reportScanError (h : console.Agrees kept) (e : ScanError) :
    (Reporter.reportScanError console e).Agrees (Reporter.reportScanError kept e) := by
  have drawn : ∀ n ∈ [console.diagnostic e], n.report? = none := by simp [diagnostic, Note.report?]
  exact (h.write drawn).report e.report

/-- **A finding leaves the two in agreement**, whatever is logged of it. -/
theorem take (h : console.Agrees kept) (f : Finding) :
    (console.take filter f).Agrees (f.reportTo kept) := by
  cases f with
  | token t => exact h.log _
  | error d => exact (h.log _).reportScanError d

theorem foldl_take (h : console.Agrees kept) (fs : List Finding) :
    (fs.foldl (ConsoleReporter.take filter) console).Agrees (fs.foldl Finding.reportTo kept) := by
  induction fs generalizing console kept with
  | nil => exact h
  | cons f fs ih => exact ih (h.take f)

/-- **A scan leaves the two in agreement.** -/
theorem takeScan (h : console.Agrees kept) (source : String) :
    (console.takeScan filter source).Agrees (kept.addScan (scan source)) :=
  (h.foldl_take (scan source).findings).log _

end Agrees

end ConsoleReporter

end LoxLexer
