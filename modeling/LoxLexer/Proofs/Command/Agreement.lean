import LoxLexer.Proofs.Command.Summary

/-!
# What a run on a script tells

A run on a script tells the same three times: by the reports that it writes, by its exit status and
by its summary. An error log tells the first two after the same scan, and it tells the third as far
as drawings leave the summary alone. They show the name of the source as it is, so a path may put
lines into the summary, and nothing else does: **`run_agrees`**.

Drawings are made elsewhere. What is needed of them is that they stand in a frame
(`Drawing.Frames`).
-/

namespace LoxLexer

/-! ### Drawings in a frame -/

/-- A drawing, put together of lines, in a frame. The line that opens the frame shows the name of
the source as it is, behind an indented margin; behind the name comes the place in the source, after
a colon, or after an escape that ends the colour of the name. All other lines are single ones that
do not begin as a report does. -/
inductive Framed (name : List Char) : List Char → Prop where
  /-- The lines above and below, and what stands beside the name. -/
  | intro {text : List Char} (above below : List (List Char)) (margin place : List Char)
      (others : ∀ l ∈ above ++ below, '\n' ∉ l ∧ ¬ Outcome.reportMark <+: l)
      (indented : '\n' ∉ ' ' :: margin) (single : '\n' ∉ place)
      (behind : place.head? = some ':' ∨ place.head? = some '\x1b')
      (lines : text ++ ['\n'] = above.flatMap (· ++ ['\n']) ++
        (' ' :: margin ++ name ++ place ++ '\n' :: below.flatMap (· ++ ['\n']))) : Framed name text

/-- All errors of scans are drawn in a frame. -/
def Drawing.Frames (drawing : Drawing) : Prop :=
  ∀ {source : String} {d : ScanError}, d ∈ (scan source).errors → ∀ name : String,
    Framed name.toList (drawing.draw d name source).toList

/-- Single lines that do not begin as a report does add nothing to the summary. -/
theorem reportLines_lines {others : List (List Char)}
    (h : ∀ l ∈ others, '\n' ∉ l ∧ ¬ Outcome.reportMark <+: l) (rest : List Char) :
    reportLines (others.flatMap (· ++ ['\n']) ++ rest) = reportLines rest := by
  induction others with
  | nil => rfl
  | cons l others ih =>
    obtain ⟨⟨single, begins⟩, later⟩ := List.forall_mem_cons.1 h
    rw [← List.isPrefixOf_iff_prefix] at begins
    rw [List.flatMap_cons, List.append_assoc, List.append_assoc, List.singleton_append,
      reportLines_append_newline, reportLines_single single, if_neg begins, ih later,
      List.nil_append]

/-- **A drawing in a frame adds to the summary if the name of the source feigns a report**, and only
then. -/
theorem Framed.reportLines_eq_nil_iff {name text : List Char} (h : Framed name text) :
    reportLines (text ++ ['\n']) = [] ↔ ¬ FeignsReport name := by
  obtain ⟨above, below, margin, place, others, indented, single, behind, lines⟩ := h
  obtain ⟨quietAbove, quietBelow⟩ := List.forall_mem_append.1 others
  obtain ⟨c, rest, rfl⟩ : ∃ c rest, place = c :: rest :=
    List.exists_cons_of_ne_nil (by rintro rfl; simp at behind)
  have apart : c ∉ '\n' :: Outcome.reportMark := by
    rcases behind with h | h <;> obtain rfl := Option.some.inj h <;> decide
  have blank : ¬ Outcome.reportMark <+: ' ' :: margin ++ name ++ c :: rest :=
    not_reportMark_of_head (by simp)
  have none : ¬ '\n' :: Outcome.reportMark <:+: rest := fun occurs =>
    single (List.mem_cons_of_mem _ (occurs.subset List.mem_cons_self))
  have last : reportLines (below.flatMap (· ++ ['\n'])) = [] := by
    rw [← List.append_nil (below.flatMap _), reportLines_lines quietBelow]
    rfl
  rw [lines, reportLines_lines quietAbove, reportLines_append_newline, last, List.append_nil,
    LoxLexer.reportLines_eq_nil_iff, and_iff_right blank, FeignsReport, List.append_assoc,
    infix_append_iff_of_not_mem indented, infix_append_cons_iff apart, FeignsReport]
  simp only [none, or_false]

theorem Drawing.lines_outline {source : String} {d : ScanError} (found : d ∈ (scan source).errors) :
    ∀ l ∈ above d ++ below d, '\n' ∉ l.toList ∧ ¬ Outcome.reportMark <+: l.toList := by
  have message := newline_not_mem_message found
  have all : ∀ l ∈ above d ++ below d, '\n' ∉ l.toList ∧ l.toList.head? ≠ some '[' := by
    obtain ⟨fault, line, region⟩ := d
    cases fault <;> simp [above, below, message, Fault.code, Fault.label, Fault.help?]
  exact fun l hl => ⟨(all l hl).1, not_reportMark_of_head (all l hl).2⟩

theorem Drawing.frames_outline : outline.Frames := by
  intro source d found name
  obtain ⟨above, below⟩ := List.forall_mem_append.1 (lines_outline found)
  refine .intro ((Drawing.above d).map String.toList)
    ((Drawing.below d).map String.toList ++ [[]]) "  ╭─[".toList
    (":" ++ position source d.region.offset ++ "]").toList ?_ (by decide) ?_ (.inl (by simp)) ?_
  · have empty : '\n' ∉ ([] : List Char) ∧ ¬ Outcome.reportMark <+: [] := ⟨by simp, by decide⟩
    simpa only [List.forall_mem_append, List.forall_mem_map, List.forall_mem_singleton] using
      ⟨above, below, empty⟩
  · simp [position, newline_not_mem_digits]
  · simp [outline, String.toList_join, List.flatMap_map]

/-! ### The summary without tokens -/

/-- **If no tokens are logged, the summary has the lines that the drawing of each error adds, and
then the report of the error.** -/
theorem summary_scanScript_of_not_admitsTokens (drawing : Drawing) {filter : Filter}
    (quiet : filter.admitsTokens = false) (path source : String) :
    (scanScript drawing filter path source).summary = (scan source).errors.flatMap fun d =>
      reportLines (drawing.note path source d).text.toList ++ [d.report.display] := by
  rw [summary_scanScript, quiet, ← filterMap_error?_scriptEvents path,
    List.filterMap_eq_flatMap_toList, List.flatMap_assoc]
  refine List.flatMap_congr fun e _ => ?_
  cases e <;> simp [Event.summarized, Event.error?]

/-! ### The run -/

/-- An outcome, the error log and the errors of the scan of a script tell the same. -/
structure Outcome.AgreesWith (o : Outcome) (path : String) (s : Scan) : Prop where
  /-- Every token is printed on standard output, errors or not. -/
  stdout : o.stdout = String.join (s.tokens.map fun t => t.display ++ "\n")
  /-- The reports that are written are those that an empty log holds after the scan. -/
  written : o.notes.filterMap Note.report? = (ErrorLog.empty.addScan s).reports
  /-- These are the errors, in order. -/
  reports : (ErrorLog.empty.addScan s).reports.map Report.display =
    s.errors.map fun e => "[line " ++ toString e.line ++ "] Error: " ++ e.message
  /-- The message of an error is a single line. -/
  singleLine : ∀ e ∈ s.errors, '\n' ∉ e.message.toList
  /-- The summary has a line for each of these reports, in order. -/
  listed : ((ErrorLog.empty.addScan s).reports.map Report.display).Sublist o.summary
  /-- It has no other lines, unless there is an error and the path feigns a report. -/
  summary : o.summary = (ErrorLog.empty.addScan s).reports.map Report.display ↔
    (s.errors = [] ∨ ¬ FeignsReport path.toList)
  /-- The exit status says whether the log had an error. -/
  exitStatus : o.exitStatus = if (ErrorLog.empty.addScan s).hadError then 65 else 0

theorem map_display_addScan (s : Scan) : (ErrorLog.empty.addScan s).reports.map Report.display =
    s.errors.flatMap fun d => [d.report.display] := by
  rw [ErrorLog.reports_addScan, ErrorLog.reports_empty, List.nil_append, List.map_map,
    List.map_eq_flatMap]
  rfl

/-- The outcome of a script agrees with the log, if drawings stand in a frame and no tokens are
logged. -/
theorem scanScript_agrees {drawing : Drawing} {filter : Filter} (frames : drawing.Frames)
    (quiet : filter.admitsTokens = false) (path source : String) :
    (scanScript drawing filter path source).AgreesWith path (scan source) := by
  have part : ∀ d ∈ (scan source).errors, [d.report.display].Sublist
      (reportLines (drawing.note path source d).text.toList ++ [d.report.display]) :=
    fun d _ => List.sublist_append_right _ _
  have drawn : ∀ d ∈ (scan source).errors,
      reportLines (drawing.note path source d).text.toList = [] ↔ ¬ FeignsReport path.toList := by
    intro d hd
    have text : (drawing.note path source d).text.toList =
        (drawing.draw d path source).toList ++ ['\n'] := by simp [Drawing.note, Note.text]
    rw [text, (frames hd path).reportLines_eq_nil_iff]
  constructor
  case stdout => rfl
  case written => exact reports_scanScript drawing filter path source
  case reports =>
    rw [ErrorLog.reports_addScan, ErrorLog.reports_empty, List.nil_append, List.map_map]
    refine List.map_congr_left fun e _ => ?_
    simp [ScanError.report, Report.display, String.append_assoc]
  case singleLine => exact fun e he => newline_not_mem_message he
  case listed =>
    rw [summary_scanScript_of_not_admitsTokens drawing quiet, map_display_addScan]
    exact List.Sublist.flatMap_right _ part
  case summary =>
    rw [summary_scanScript_of_not_admitsTokens drawing quiet, map_display_addScan, eq_comm,
      flatMap_eq_iff_of_sublist part]
    refine (forall₂_congr fun d hd => List.self_eq_append_left.trans (drawn d hd)).trans ?_
    cases (scan source).errors with
    | nil => simp
    | cons first others =>
      exact ⟨fun plain => .inr (plain first List.mem_cons_self),
        fun plain _ _ => plain.resolve_left (List.cons_ne_nil _ _)⟩
  case exitStatus => exact exitStatus_scanScript drawing filter path source

/-- **A run on a script with default logging or `--verbose` tells what the error log and the errors
of the scan tell**, but for lines of the summary that the path makes, which is drawn with each
error. -/
theorem run_agrees {files : Files} {drawing : Drawing} {words : List String} {verbose : Bool}
    {setting : Option String} {path source : String} (frames : drawing.Frames)
    (asked : AsksFor words verbose path) (held : files.Holds path source.toUTF8)
    (plain : verbose = true ∨ setting = none) :
    ∃ o, run setting files words drawing = some o ∧ o.AgreesWith path (scan source) := by
  refine ⟨_, run_script asked held setting drawing, scanScript_agrees frames ?_ path source⟩
  rcases plain with rfl | rfl
  · exact Filter.admits_everywhere _ _ _ _
  · cases verbose <;> exact Filter.admits_everywhere _ _ _ _

/-- A script with a token and two errors, the last of them a string that is never closed. -/
theorem run_agrees_open_string :
    ∃ o, run none (Directory.mk [("a.lox", "1 @\n\"s".toUTF8)]) ["--verbose", "a.lox"] .outline =
        some o ∧
      o.AgreesWith "a.lox" (scan "1 @\n\"s") := by
  have held : (Directory.mk [("a.lox", "1 @\n\"s".toUTF8)]).reach.Holds "a.lox"
      "1 @\n\"s".toUTF8 := Directory.holds_iff.2 ⟨by decide, by decide, rfl⟩
  exact run_agrees Drawing.frames_outline rfl held (.inl rfl)

/-- **The path of a script may add to the summary**: the drawing of an error shows it as it is, and
here its second line looks like a report. -/
theorem summary_of_named_script :
    AsksFor ["x\n[line 3]\ny"] false "x\n[line 3]\ny" ∧
      (Directory.mk [("x\n[line 3]\ny", "@".toUTF8)]).reach.Holds "x\n[line 3]\ny" "@".toUTF8 ∧
      (run none (Directory.mk [("x\n[line 3]\ny", "@".toUTF8)]) ["x\n[line 3]\ny"] .outline).map
          (·.summary) = some ["[line 3]", "[line 1] Error: Unexpected character '@'."] ∧
      (ErrorLog.empty.addScan (scan "@")).reports.map Report.display =
        ["[line 1] Error: Unexpected character '@'."] := by
  have asked : AsksFor ["x\n[line 3]\ny"] false "x\n[line 3]\ny" := rfl
  have held : (Directory.mk [("x\n[line 3]\ny", "@".toUTF8)]).reach.Holds "x\n[line 3]\ny"
      "@".toUTF8 := Directory.holds_iff.2 ⟨by decide, by decide, rfl⟩
  refine ⟨asked, held, ?_, by decide +kernel⟩
  rw [run_script asked held, Option.map_some, summary_scanScript]
  decide +kernel

end LoxLexer
