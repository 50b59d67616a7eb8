import LoxLexer.Scan

/-!
# Reports and those who take them

A report is what a reader is told of an error: a line, a location in words and a message. A scan
tells a reporter of its errors, one by one as they are found, and the reporter knows whether there
were any. The error log is a reporter that keeps its reports over any number of scans until it is
emptied.
-/

namespace LoxLexer

/-- What a reader is told of an error. -/
structure Report where
  /-- The line. -/
  line : Nat
  /-- Where on the line, in words that follow "Error"; often empty. -/
  location : String
  /-- What is wrong. -/
  message : String
  deriving DecidableEq, Repr

/-- The report as one text. -/
def Report.display (r : Report) : String :=
  "[line " ++ toString r.line ++ "] Error" ++ r.location ++ ": " ++ r.message

/-- The report of a lexical error has no location. -/
def ScanError.report (e : ScanError) : Report := ⟨e.line, "", e.message⟩

/-! ### Reporters -/

/-- Somebody who is told of errors. -/
class Reporter (ρ : Type) where
  /-- Takes a report. -/
  report : ρ → Report → ρ
  /-- Whether there was an error. -/
  hadError : ρ → Bool
  /-- Forgets that there was one. -/
  reset : ρ → ρ
  /-- Takes a lexical error. A reporter that has nothing more to do with it takes its report. -/
  reportScanError : ρ → ScanError → ρ := fun reporter e => report reporter e.report

variable {ρ : Type} [Reporter ρ]

/-- Tells a reporter of a finding, if it is an error. -/
def Finding.reportTo (reporter : ρ) : Finding → ρ
  | token _ => reporter
  | error found => Reporter.reportScanError reporter found

/-- Tells a reporter of the errors of a scan, one after another. -/
def Scan.reportTo (s : Scan) (reporter : ρ) : ρ := s.findings.foldl Finding.reportTo reporter

/-- A reporter that takes the reports of errors and nothing more is told these reports. -/
theorem Scan.reportTo_eq_foldl
    (forwards : ∀ (reporter : ρ) (e : ScanError),
      Reporter.reportScanError reporter e = Reporter.report reporter e.report)
    (s : Scan) (reporter : ρ) :
    s.reportTo reporter = (s.errors.map ScanError.report).foldl Reporter.report reporter := by
  obtain ⟨findings⟩ := s
  induction findings generalizing reporter with
  | nil => rfl
  | cons f findings ih =>
    cases f with
    | token t => exact ih reporter
    | error e =>
      calc Scan.reportTo ⟨.error e :: findings⟩ reporter
          = Scan.reportTo ⟨findings⟩ (Reporter.reportScanError reporter e) := rfl
        _ = Scan.reportTo ⟨findings⟩ (Reporter.report reporter e.report) := by rw [forwards]
        _ = _ := ih _

/-! ### The error log -/

/-- Reports kept in memory, the oldest first. -/
structure ErrorLog where
  /-- The reports. -/
  reports : List Report
  deriving DecidableEq, Repr

namespace ErrorLog

/-- The log that holds nothing. -/
def empty : ErrorLog := ⟨[]⟩

/-- Adds a report. -/
def add (log : ErrorLog) (added : Report) : ErrorLog := ⟨log.reports ++ [added]⟩

/-- The number of reports. -/
def length (log : ErrorLog) : Nat := log.reports.length

/-- Whether there is no report. -/
def isEmpty (log : ErrorLog) : Bool := log.reports.isEmpty

/-- Whether anything was reported. -/
def hadError (log : ErrorLog) : Bool := !log.reports.isEmpty

instance : Reporter ErrorLog where
  report := add
  hadError := hadError
  reset _ := empty

/-- Adds one report for each error of a scan. -/
def addScan (log : ErrorLog) (s : Scan) : ErrorLog := s.reportTo log

@[simp] theorem reports_empty : empty.reports = [] := rfl

@[simp] theorem reports_add (log : ErrorLog) (added : Report) :
    (log.add added).reports = log.reports ++ [added] := rfl

theorem reports_foldl_add (added : List Report) (log : ErrorLog) :
    (added.foldl add log).reports = log.reports ++ added := by
  induction added generalizing log with
  | nil => exact (List.append_nil _).symm
  | cons first added ih => rw [List.foldl_cons, ih, reports_add, ← List.append_cons]

/-- The log takes errors as their reports, so a scan adds those of its errors. -/
@[simp] theorem reports_addScan (log : ErrorLog) (s : Scan) :
    (log.addScan s).reports = log.reports ++ s.errors.map ScanError.report := by
  rw [addScan, Scan.reportTo_eq_foldl fun _ _ => rfl]
  exact reports_foldl_add _ log

end ErrorLog

end LoxLexer
