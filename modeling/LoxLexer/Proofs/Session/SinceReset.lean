import LoxLexer.Session
import Mathlib.Data.List.DropRight

/-!
# What the log of a session holds

Scans, reports and resets may follow one another in any order. After every step the log holds what
was added since it was last emptied, nothing lost, doubled or out of order, and a scan answers with
the same tokens as at the start of a session: **`session_records`**. It follows from what one step
does to the reports (`Step.reports_apply`), by induction on the steps (`reports_foldl_apply`).
-/

namespace LoxLexer

/-- The reports that a step adds: one without a location for each error of a scan or handed over,
with its line and message, or the report given. -/
def Step.added : Step → List Report
  | scan source => (LoxLexer.scan source).errors.map fun e => ⟨e.line, "", e.message⟩
  | report added => [added]
  | reportError error => [⟨error.line, "", error.message⟩]
  | reset => []

/-- The steps since the log was last emptied. -/
def sinceReset (steps : List Step) : List Step := steps.rtakeWhile (· ≠ .reset)

/-- The reports that were added since then, in the order of the steps. -/
def addedSinceReset (steps : List Step) : List Report := (sinceReset steps).flatMap Step.added

theorem sinceReset_reset (steps : List Step) : sinceReset (steps ++ [.reset]) = [] :=
  List.rtakeWhile_concat_neg _ _ _ (by simp)

theorem sinceReset_append {step : Step} (h : step ≠ .reset) (steps : List Step) :
    sinceReset (steps ++ [step]) = sinceReset steps ++ [step] :=
  List.rtakeWhile_concat_pos _ _ _ (by simpa using h)

/-! ### The log -/

/-- A step empties the log or adds its reports behind those that are there. -/
theorem Step.reports_apply (log : ErrorLog) (step : Step) :
    (step.apply log).reports = if step = .reset then [] else log.reports ++ step.added := by
  cases step with
  | scan source => exact ErrorLog.reports_addScan _ _
  | report | reportError | reset => rfl

/-- **A log that was empty holds what was added since the last reset.** -/
theorem reports_foldl_apply (steps : List Step) :
    (steps.foldl Step.apply ErrorLog.empty).reports = addedSinceReset steps := by
  rw [addedSinceReset]
  induction steps using List.reverseRecOn with
  | nil => rfl
  | append_singleton steps step ih =>
    rw [List.foldl_append, List.foldl_cons, List.foldl_nil, Step.reports_apply, ih]
    by_cases reset : step = .reset
    · rw [if_pos reset, reset, sinceReset_reset, List.flatMap_nil]
    · rw [if_neg reset, sinceReset_append reset, List.flatMap_append, List.flatMap_singleton]

/-! ### The session -/

/-- What can be seen after a step is what it does to the log that the steps before it have left. -/
theorem getElem?_session (log : ErrorLog) (before : List Step) (step : Step) (after : List Step) :
    (session log (before ++ step :: after))[before.length]? =
      some ⟨step.tokens?, step.apply (before.foldl Step.apply log)⟩ := by
  induction before generalizing log with
  | nil => rfl
  | cons first before ih => exact ih (first.apply log)

/-- What can be seen after a step of a session that began with an empty log and some steps. -/
structure Entry.Records (entry : Entry) (before : List Step) (step : Step) : Prop where
  /-- The log holds what was added since the last reset, the reports of this step included. -/
  reports : entry.log.reports = addedSinceReset (before ++ [step])
  /-- Its length is the number of these reports. -/
  length : entry.log.length = (addedSinceReset (before ++ [step])).length
  /-- It is empty if there are none. -/
  isEmpty : entry.log.isEmpty = true ↔ addedSinceReset (before ++ [step]) = []
  /-- It had an error if there is one. -/
  hadError : entry.log.hadError = true ↔ ∃ r, r ∈ addedSinceReset (before ++ [step])
  /-- A scan answers with the tokens of its text, as it does on a new log. -/
  tokens : ∀ source, step = .scan source → entry.tokens = some (scan source).tokens ∧
    (session ErrorLog.empty [step]).map Entry.tokens = [entry.tokens]

/-- **After every step of every session, the log holds what was added since it was last emptied**,
and all questions to the log are answered so. -/
theorem session_records (before : List Step) (step : Step) (after : List Step) :
    ∃ entry, (session ErrorLog.empty (before ++ step :: after))[before.length]? = some entry ∧
      entry.Records before step := by
  refine ⟨_, getElem?_session _ before step after, ?_⟩
  have held : (step.apply (before.foldl Step.apply ErrorLog.empty)).reports =
      addedSinceReset (before ++ [step]) := by
    rw [← reports_foldl_apply, List.foldl_append]
    rfl
  constructor
  case reports => exact held
  case length => rw [ErrorLog.length, held]
  case isEmpty => rw [ErrorLog.isEmpty, held, List.isEmpty_iff]
  case hadError =>
    rw [ErrorLog.hadError, held, Bool.not_eq_true', List.isEmpty_eq_false_iff_exists_mem]
  case tokens =>
    rintro source rfl
    exact ⟨rfl, rfl⟩

/-- What is added by hand stands in the log beside what scans find, and a reset forgets both. -/
example : ((session ErrorLog.empty [.scan "@", .reset, .scan "\"", .report ⟨7, " at end", "oops"⟩,
    .scan "1"]).map fun entry => entry.log.reports.map Report.display) =
      [["[line 1] Error: Unexpected character '@'."], [], ["[line 1] Error: Unterminated string."],
        ["[line 1] Error: Unterminated string.", "[line 7] Error at end: oops"],
        ["[line 1] Error: Unterminated string.", "[line 7] Error at end: oops"]] := by
  decide +kernel

end LoxLexer
