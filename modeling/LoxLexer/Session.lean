import LoxLexer.Report

/-!
# Sessions

A session works on one error log, step by step: texts are scanned and their errors reported to the
log, reports are added by hand, or the log is emptied. Every step leaves a state of the log, and a
scan also answers with its tokens, which do not depend on the log.
-/

namespace LoxLexer

/-- One step of a session. -/
inductive Step where
  /-- Scan a text and report its errors. -/
  | scan (source : String)
  /-- Add a report. -/
  | report (added : Report)
  /-- Add the report of an error. -/
  | reportError (error : ScanError)
  /-- Forget all reports. -/
  | reset
  deriving DecidableEq, Repr

namespace Step

/-- The log after a step. -/
def apply (log : ErrorLog) : Step → ErrorLog
  | scan source => log.addScan (LoxLexer.scan source)
  | report added => Reporter.report log added
  | reportError error => Reporter.reportScanError log error
  | reset => Reporter.reset log

/-- The tokens a step answers with. -/
def tokens? : Step → Option (List Token)
  | scan source => some (LoxLexer.scan source).tokens
  | _ => none

end Step

/-- What can be seen after a step. -/
structure Entry where
  /-- The tokens of a scan. -/
  tokens : Option (List Token)
  /-- The log after the step. -/
  log : ErrorLog
  deriving DecidableEq, Repr

/-- What can be seen after each step, from a given log on. -/
def session (log : ErrorLog) : List Step → List Entry
  | [] => []
  | step :: steps => ⟨step.tokens?, step.apply log⟩ :: session (step.apply log) steps

end LoxLexer
