import LoxLexer.Proofs.Command.Script
import LoxLexer.Proofs.Scan.Partition
import LoxLexer.Proofs.Text.Lines
import Mathlib.Data.List.Flatten

/-!
# The summary of a run

Standard error is one text, in which the drawings and the reports of errors stand among log records.
All of these end their last line, so the summary is that of the notes one by one (`summary_eq`). The
report of an error is a line of the summary, and the record of anything but a token is a line that
is not. **`summary_scanScript`** puts the summary of a script together from this, with what drawings
and the records of tokens add.
-/

namespace LoxLexer

/-! ### Single lines -/

theorem newline_not_mem_digits (n : Nat) : '\n' ∉ Nat.toDigits 10 n :=
  newline_not_mem_toDigits (by decide) (by decide) n

theorem Fault.newline_not_mem_message {fault : Fault} (h : fault ≠ .unexpectedCharacter '\n') :
    '\n' ∉ fault.message.toList := by
  cases fault with
  | unexpectedCharacter c =>
    have newline : '\n' ≠ c := by
      rintro rfl
      exact h rfl
    change '\n' ∉ ("Unexpected character '" ++ String.singleton c ++ "'.").toList
    simp [newline]
  | unterminatedString =>
    change '\n' ∉ "Unterminated string.".toList
    simp

/-- What is said of an error is a single line, since a newline is never unexpected. -/
theorem newline_not_mem_message {source : String} {e : ScanError}
    (h : e ∈ (scan source).errors) : '\n' ∉ e.message.toList := by
  refine Fault.newline_not_mem_message fun fault => ?_
  obtain ⟨before, d, after, -, fits, found⟩ := exists_element_of_mem_foundFrom (mem_errors.1 h)
  cases fits with
  | token | blank | comment => cases found
  | @stray c _ quote code =>
    obtain rfl := Finding.error.inj (Option.some.inj found)
    obtain rfl := Fault.unexpectedCharacter.inj fault
    rw [isCodeChar_iff.2 (.inr (.inl rfl))] at code
    cases code
  | openString =>
    obtain rfl := Finding.error.inj (Option.some.inj found)
    cases fault

theorem newline_not_mem_display {source : String} {e : ScanError}
    (h : e ∈ (scan source).errors) : '\n' ∉ e.report.display.toList := by
  simp [ScanError.report, Report.display, newline_not_mem_digits, newline_not_mem_message h]

theorem Event.newline_not_mem_record {e : Event} (h : '\n' ∉ e.message.toList) :
    '\n' ∉ e.record.toList := by
  have level : '\n' ∉ e.level.name.toList := by cases e.level <;> decide
  have target : '\n' ∉ e.target.toList := by cases e <;> simp [Event.target]
  simp [record, level, target, h]

/-- What is logged of the scan of a script is a single line, but for tokens. -/
theorem newline_not_mem_record {path source : String} {e : Event}
    (h : e ∈ scriptEvents path source) (notToken : ∀ t, e ≠ .token t) :
    '\n' ∉ e.record.toList := by
  apply Event.newline_not_mem_record
  cases e with
  | token t => exact absurd rfl (notToken t)
  | opened path bytes =>
    change '\n' ∉ ("scanning script script=" ++ String.ofList (quoted path.toList) ++
      " bytes=" ++ toString bytes).toList
    simp [newline_not_mem_quoted, newline_not_mem_digits]
  | finished tokens lines =>
    change '\n' ∉ ("scan finished tokens=" ++ toString tokens ++ " lines=" ++
      toString lines).toList
    simp [newline_not_mem_digits]
  | error d =>
    have found : d ∈ (scan source).errors := error_mem_scriptEvents.1 h
    change '\n' ∉ ("lexical error line=" ++ toString d.line ++ " error=" ++ d.message).toList
    simp [newline_not_mem_digits, newline_not_mem_message found]

theorem not_reportMark_of_head {text : List Char} (h : text.head? ≠ some '[') :
    ¬ Outcome.reportMark <+: text := by
  rintro ⟨rest, rfl⟩
  exact h rfl

/-- A log record begins with the name of its level, so it does not begin as a report does. -/
theorem not_reportMark_record (e : Event) : ¬ Outcome.reportMark <+: e.record.toList := by
  refine not_reportMark_of_head fun bracket => ?_
  have capital : ∃ c rest, e.level.name.toList = c :: rest ∧ c ≠ '[' := by
    cases e.level <;> exact ⟨_, _, rfl, by decide⟩
  obtain ⟨c, rest, name, other⟩ := capital
  have begins : e.record.toList.head? = some c := by simp [Event.record, name]
  exact other (Option.some.inj (begins.symm.trans bracket))

theorem reportMark_display (r : Report) :
    Outcome.reportMark.isPrefixOf r.display.toList = true := by
  rw [List.isPrefixOf_iff_prefix, Report.display]
  refine ⟨(toString r.line ++ "] Error" ++ r.location ++ ": " ++ r.message).toList, ?_⟩
  show "[line ".toList ++ _ = _
  simp only [String.toList_append, List.append_assoc]

/-! ### Note by note -/

/-- The lines of a text that begin as reports do. -/
def reportLines (text : List Char) : List String :=
  ((lines text).filter Outcome.reportMark.isPrefixOf).map String.ofList

theorem reportLines_append_newline (text rest : List Char) :
    reportLines (text ++ '\n' :: rest) = reportLines (text ++ ['\n']) ++ reportLines rest := by
  simp [reportLines, lines_append_newline]

theorem reportLines_single {line : List Char} (single : '\n' ∉ line) :
    reportLines (line ++ ['\n']) =
      if Outcome.reportMark.isPrefixOf line then [String.ofList line] else [] := by
  rw [reportLines, lines_append_newline, segments_of_not_mem single]
  cases begins : Outcome.reportMark.isPrefixOf line <;> simp [begins]

/-- A line of the text behind its first one begins as a report does. -/
def FeignsReport (text : List Char) : Prop := '\n' :: Outcome.reportMark <:+: text

instance (text : List Char) : Decidable (FeignsReport text) :=
  inferInstanceAs (Decidable (_ <:+: _))

theorem newline_not_mem_reportMark : '\n' ∉ Outcome.reportMark := by decide

/-- A text has lines like reports if it begins with one or has one further on. -/
theorem reportLines_eq_nil_iff (text : List Char) : reportLines (text ++ ['\n']) = [] ↔
    ¬ Outcome.reportMark <+: text ∧ ¬ FeignsReport text := by
  rw [reportLines, List.map_eq_nil_iff, filter_lines_eq_nil_iff newline_not_mem_reportMark]
  rfl

/-- The note ends its last line. -/
def Note.Ends (n : Note) : Prop := ∃ body, n.text.toList = body ++ ['\n']

theorem Note.ends_event (e : Event) : (Note.event e).Ends := ⟨e.record.toList, by simp [text]⟩

theorem Note.ends_diagnostic (drawn : String) : (Note.diagnostic drawn).Ends :=
  ⟨drawn.toList, by simp [text]⟩

theorem Note.ends_report (r : Report) : (Note.report r).Ends := ⟨r.display.toList, by simp [text]⟩

/-- **If all notes end their lines, then the summary is that of the notes one by one.** -/
theorem summary_eq {o : Outcome} (ends : ∀ n ∈ o.notes, n.Ends) :
    o.summary = o.notes.flatMap fun n => reportLines n.text.toList := by
  obtain ⟨exitStatus, stdout, notes⟩ := o
  change reportLines (String.join (notes.map Note.text)).toList = _
  induction notes with
  | nil => rfl
  | cons n notes ih =>
    obtain ⟨body, text⟩ := ends n List.mem_cons_self
    rw [List.map_cons, String.join_cons, String.toList_append, List.flatMap_cons, text,
      List.append_assoc, List.singleton_append, reportLines_append_newline,
      ih fun m hm => ends m (List.mem_cons_of_mem _ hm)]

theorem reportLines_event {e : Event} (single : '\n' ∉ e.record.toList) :
    reportLines (Note.event e).text.toList = [] := by
  have text : (Note.event e).text.toList = e.record.toList ++ ['\n'] := by simp [Note.text]
  rw [text, reportLines_single single, if_neg]
  rw [List.isPrefixOf_iff_prefix]
  exact not_reportMark_record e

theorem reportLines_report {r : Report} (single : '\n' ∉ r.display.toList) :
    reportLines (Note.report r).text.toList = [r.display] := by
  have text : (Note.report r).text.toList = r.display.toList ++ ['\n'] := by simp [Note.text]
  rw [text, reportLines_single single, reportMark_display, String.ofList_toList]
  rfl

theorem Event.ends_of_mem_written {filter : Filter} {diagnostic : ScanError → Note} {e : Event}
    {n : Note} (drawn : ∀ d, (diagnostic d).Ends) (h : n ∈ e.written filter diagnostic) :
    n.Ends := by
  rw [written, notes] at h
  rcases List.mem_append.1 h with logged | told
  · split at logged
    · rw [List.mem_singleton.1 logged]
      exact Note.ends_event e
    · cases logged
  · cases found : e.error? with
    | none =>
      rw [found] at told
      cases told
    | some d =>
      rw [found] at told
      rcases List.mem_pair.1 told with rfl | rfl
      · exact drawn d
      · exact Note.ends_report d.report

/-! ### Event by event -/

/-- Lists that are put together from lists and from parts of these are equal if the parts are the
whole. -/
theorem flatMap_eq_iff_of_sublist {α β : Type} {f g : α → List β} {l : List α}
    (h : ∀ a ∈ l, (f a).Sublist (g a)) : l.flatMap f = l.flatMap g ↔ ∀ a ∈ l, f a = g a := by
  refine ⟨fun all => ?_, List.flatMap_congr⟩
  induction l with
  | nil => simp
  | cons a l ih =>
    obtain ⟨first, others⟩ := List.forall_mem_cons.1 h
    have shorter := first.length_le
    have shorter' := (List.Sublist.flatMap_right l others).length_le
    have lengths := congrArg List.length all
    rw [List.flatMap_cons, List.flatMap_cons, List.length_append, List.length_append] at lengths
    obtain ⟨same, rest⟩ := List.append_inj all (by omega)
    exact List.forall_mem_cons.2 ⟨same, ih others rest⟩

/-- Whether the filter lets single tokens through. -/
def Filter.admitsTokens (f : Filter) : Bool :=
  f.admits "lox_scan::scanner" ["message", "token", "position"] .trace

theorem Event.admittedBy_token (f : Filter) (t : Token) :
    (Event.token t).admittedBy f = f.admitsTokens := rfl

/-- What an event adds to the summary, if single tokens are logged or if they are not: an error adds
what its drawing does, and its report. -/
def Event.summarized (tokens : Bool) (diagnostic : ScanError → Note) : Event → List String
  | token t => if tokens then reportLines (Note.event (.token t)).text.toList else []
  | error d => reportLines (diagnostic d).text.toList ++ [d.report.display]
  | _ => []

/-- **The summary of a scanned script is put together from its events**, and of the filter it only
matters whether it lets single tokens through. -/
theorem summary_scanScript (drawing : Drawing) (filter : Filter) (path source : String) :
    (scanScript drawing filter path source).summary = (scriptEvents path source).flatMap
      (Event.summarized filter.admitsTokens (drawing.note path source)) := by
  have ends : ∀ n ∈ (scanScript drawing filter path source).notes, n.Ends := by
    intro n hn
    rw [notes_scanScript, List.mem_flatMap] at hn
    obtain ⟨e, -, hn⟩ := hn
    exact Event.ends_of_mem_written (fun _ => Note.ends_diagnostic _) hn
  rw [summary_eq ends, notes_scanScript, List.flatMap_assoc]
  refine List.flatMap_congr fun e he => ?_
  have quiet (notToken : ∀ t, e ≠ .token t) :
      (e.notes filter).flatMap (fun n => reportLines n.text.toList) = [] := by
    rw [Event.notes]
    split
    · simp [reportLines_event (newline_not_mem_record he notToken)]
    · rfl
  rw [Event.written, List.flatMap_append]
  cases e with
  | token t =>
    rw [Event.notes, Event.admittedBy_token, Event.summarized]
    split <;> simp [Event.error?]
  | error d =>
    have found : d ∈ (scan source).errors := error_mem_scriptEvents.1 he
    rw [quiet (by simp), Event.summarized]
    simp [Event.error?, reportLines_report (newline_not_mem_display found)]
  | opened | finished =>
    rw [quiet (by simp)]
    rfl

end LoxLexer
