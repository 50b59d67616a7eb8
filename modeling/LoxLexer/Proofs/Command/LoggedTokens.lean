import LoxLexer.Proofs.Command.Summary
import LoxLexer.Proofs.Number.Digits
import LoxLexer.Proofs.Scan.Printed

/-!
# Tokens in the log

The text of a string is logged as it stands, with its token, so the record of a token may be of
several lines, and one of them may begin as a report does. The record of a token adds to the summary
exactly if the text of the token is such a one: **`reportLines_token`**. No other record does, so of
a filter it only matters for the summary whether it lets single tokens through, and only if a token
of the script feigns a report: **`summary_scanScript_eq_iff`**.
-/

namespace LoxLexer

/-! ### The record of a token -/

theorem Binary64.newline_not_mem_text (x : Binary64) : '\n' ∉ x.text.toList := by
  rw [text]
  split
  · simp
  · cases x.isInfinite <;> cases x.negative <;> simp [Decimal.newline_not_mem_write]

/-- The token is a string, and a line of its text, but for the first one, begins as a report does.
In the log there is a blank behind the text. -/
def Token.FeignsReport (t : Token) : Prop :=
  ∃ text, t.literal = some (.text text) ∧ LoxLexer.FeignsReport (text.toList ++ [' '])

/-- The record of a token has its text and, behind a blank, its position. -/
theorem toList_record_token (t : Token) : ∃ front back, '\n' ∉ front ∧ '\n' ∉ back ∧
    (Event.token t).record.toList = front ++ t.display.toList ++ ' ' :: back := by
  refine ⟨"TRACE lox_scan::scanner: token token=".toList, "position=".toList ++ t.position.toList,
    by decide, ?_, ?_⟩
  · simp [Token.position, newline_not_mem_digits]
  · change ("TRACE" ++ " " ++ "lox_scan::scanner" ++ ": " ++
      ("token token=" ++ t.display ++ " position=" ++ t.position)).toList = _
    simp

theorem feignsReport_string {front text back : List Char} (single : '\n' ∉ front)
    (single' : '\n' ∉ back) :
    FeignsReport (front ++ '"' :: text ++ '"' :: ' ' :: text ++ ' ' :: back) ↔
      FeignsReport (text ++ [' ']) := by
  have once : FeignsReport text → FeignsReport (text ++ [' ']) :=
    fun occurs => occurs.trans (List.prefix_append _ _).isInfix
  have mark : '\n' :: Outcome.reportMark = "\n[line".toList ++ [' '] := rfl
  have quote : '"' ∉ '\n' :: Outcome.reportMark := by decide
  have none : ¬ '\n' :: Outcome.reportMark <:+: front :=
    fun occurs => single (occurs.subset List.mem_cons_self)
  have twice : '\n' :: Outcome.reportMark <:+: [' '] ++ (text ++ ' ' :: back) ↔
      FeignsReport (text ++ [' ']) := by
    rw [infix_append_iff_of_not_mem (by decide), FeignsReport, mark,
      infix_append_singleton_iff (by decide) (by decide) single']
  have parts : front ++ '"' :: text ++ '"' :: ' ' :: text ++ ' ' :: back =
      front ++ '"' :: (text ++ '"' :: ([' '] ++ (text ++ ' ' :: back))) := by simp
  rw [parts, FeignsReport, infix_append_cons_iff quote, infix_append_cons_iff quote, twice]
  simp only [none, false_or]
  exact or_iff_right_of_imp once

/-- Only a string carries a text. -/
theorem Token.IsRead.kind_of_text {t : Token} {text : String} (read : t.IsRead)
    (h : t.literal = some (.text text)) : t.kind = .string := by
  rw [read.literal] at h
  unfold Kind.literal? at h
  split at h
  · assumption
  · simp at h
  · cases h

theorem Token.newline_not_mem_display {t : Token} (read : t.IsRead) (string : t.kind ≠ .string) :
    '\n' ∉ t.display.toList := by
  have apart : isBlank '\n' = true := rfl
  have name : '\n' ∉ t.kind.name.toList := by
    intro newline
    rw [t.kind.name_solid _ newline] at apart
    cases apart
  have lexeme : '\n' ∉ t.lexeme.toList := by
    rcases read.lexeme.string_or_solid with ⟨kind, -⟩ | ⟨-, solid⟩
    · exact absurd kind string
    · intro newline
      rw [solid _ newline] at apart
      cases apart
  have literal : ∀ text, t.literal ≠ some (.text text) := fun text h =>
    string (read.kind_of_text h)
  rcases t with ⟨kind, word, _ | value, line, span⟩
  · simp [display, name, lexeme]
  · cases value with
    | text text => exact absurd rfl (literal text)
    | number x => simp [display, name, lexeme, Literal.display, Binary64.newline_not_mem_text]

/-- **The record of a token feigns a report if the token does**, as only the text of a string can be
of several lines. -/
theorem feignsReport_record_iff {t : Token} (read : t.IsRead) :
    FeignsReport (Event.token t).record.toList ↔ t.FeignsReport := by
  obtain ⟨front, back, single, single', record⟩ := toList_record_token t
  rw [record]
  by_cases string : t.kind = .string
  · obtain ⟨-, body, -, lexeme⟩ :=
      read.lexeme.string_or_solid.resolve_right fun other => other.1 string
    have literal : t.literal = some (.text (String.ofList body)) := by
      rw [read.literal, string, lexeme]
      simp [Kind.literal?]
    have display : t.display.toList = "STRING ".toList ++ '"' :: body ++ '"' :: ' ' :: body := by
      simp [Token.display, literal, Literal.display, string, lexeme, Kind.name]
    have single'' : '\n' ∉ front ++ "STRING ".toList := by simp [single]
    have parts : front ++ t.display.toList ++ ' ' :: back = front ++ "STRING ".toList ++
        '"' :: body ++ '"' :: ' ' :: body ++ ' ' :: back := by simp [display]
    rw [parts, feignsReport_string single'' single', Token.FeignsReport, literal]
    simp
  · have feigned : ¬ t.FeignsReport := by
      rintro ⟨text, literal, -⟩
      exact string (read.kind_of_text literal)
    refine iff_of_false (fun occurs => ?_) feigned
    have newline : '\n' ∈ front ++ t.display.toList ++ ' ' :: back :=
      occurs.subset List.mem_cons_self
    simp [single, single', Token.newline_not_mem_display read string] at newline

theorem reportLines_token {t : Token} (read : t.IsRead) :
    reportLines (Note.event (.token t)).text.toList = [] ↔ ¬ t.FeignsReport := by
  have text : (Note.event (.token t)).text.toList = (Event.token t).record.toList ++ ['\n'] := by
    simp [Note.text]
  rw [text, reportLines_eq_nil_iff, and_iff_right (not_reportMark_record _),
    feignsReport_record_iff read]

/-! ### The summary -/

/-- What is logged of tokens is each token of the scan, or nothing. -/
theorem token_mem_events_scanScript {drawing : Drawing} {filter : Filter} {path source : String}
    {t : Token} : Event.token t ∈ (scanScript drawing filter path source).events ↔
      t ∈ (scan source).tokens ∧ filter.admitsTokens = true := by
  rw [events_scanScript, List.mem_filter, token_mem_scriptEvents, Event.admittedBy_token]

/-- If no token feigns a report, it makes no difference to the summary whether they are logged, and
only then. -/
theorem flatMap_summarized_iff (diagnostic : ScanError → Note) (path source : String) :
    (scriptEvents path source).flatMap (Event.summarized false diagnostic) =
        (scriptEvents path source).flatMap (Event.summarized true diagnostic) ↔
      ∀ t ∈ (scan source).tokens, ¬ t.FeignsReport := by
  have part : ∀ e ∈ scriptEvents path source,
      (Event.summarized false diagnostic e).Sublist (Event.summarized true diagnostic e) := by
    intro e _
    cases e <;> simp [Event.summarized]
  rw [flatMap_eq_iff_of_sublist part]
  constructor
  · intro same t ht
    have text := (same (.token t) (token_mem_scriptEvents.2 ht)).symm
    exact (reportLines_token (isRead_of_mem_tokens ht)).1 text
  · intro plain e he
    cases e with
    | token t =>
      have ht := token_mem_scriptEvents.1 he
      exact ((reportLines_token (isRead_of_mem_tokens ht)).2 (plain t ht)).symm
    | _ => rfl

/-- **Two filters give the same summary** if both or none of them lets single tokens through, or no
token feigns a report. -/
theorem summary_scanScript_eq_iff (drawing : Drawing) (filter filter' : Filter)
    (path source : String) :
    (scanScript drawing filter path source).summary =
        (scanScript drawing filter' path source).summary ↔
      (filter.admitsTokens = filter'.admitsTokens ∨
        ∀ t ∈ (scan source).tokens, ¬ t.FeignsReport) := by
  rw [summary_scanScript, summary_scanScript,
    ← flatMap_summarized_iff (drawing.note path source) path]
  cases filter.admitsTokens <;> cases filter'.admitsTokens <;> simp [eq_comm]

/-- Single tokens are logged. -/
def Outcome.LogsTokens (o : Outcome) : Prop := ∃ t, Event.token t ∈ o.events

/-- Single tokens are logged if the filter lets them through, since there is always one. -/
theorem logsTokens_scanScript {drawing : Drawing} {filter : Filter} {path source : String} :
    (scanScript drawing filter path source).LogsTokens ↔ filter.admitsTokens = true := by
  simp only [Outcome.LogsTokens, token_mem_events_scanScript, exists_and_right,
    and_iff_right_iff_imp]
  intro _
  exact ⟨Token.endOfText (Place.start.after source.toList), by simp [tokens_scan]⟩

end LoxLexer
