import LoxLexer.Proofs.Command.Checks
import LoxLexer.Proofs.Command.LoggedTokens
import LoxLexer.Proofs.Command.Record

/-!
# What the log changes

The log setting and the option `--verbose` decide what is logged. **`run_settings`** compares two
runs that differ in nothing else: they have the same exit status, print the same and report the same
errors. They also have the same summary, unless one of them logs single tokens and the other does
not, and one of these tokens feigns a report.
-/

namespace LoxLexer

/-! ### The option in the arguments -/

/-- The second words are the first ones with `--verbose` put in, once, several times or not at all,
before the word `--` and before all requests for help. -/
inductive WithVerbose (words : List String) : List String → Prop where
  /-- It is not put in. -/
  | same : WithVerbose words words
  /-- It is put in once more. -/
  | insert {front back : List String} (h : WithVerbose words (front ++ back))
      (before : ∀ word ∈ front, word ≠ "--" ∧ ¬ IsHelp word) :
      WithVerbose words (front ++ "--verbose" :: back)

section

variable {front : List String} (h : ∀ word ∈ front, word ≠ "--") (back : List String)

include h

theorem optionWords_append : optionWords (front ++ back) = front ++ optionWords back :=
  List.takeWhile_append_of_pos (by simpa using h)

theorem plainWords_append : plainWords (front ++ back) = plainWords back := by
  rw [plainWords, List.dropWhile_append_of_pos (by simpa using h), plainWords]

end

/-- A known option may be put in anywhere before the requests for help. -/
theorem Accepted.insert {front back : List String} {word : String}
    (accepted : Accepted (front ++ back)) (noHelp : ∀ w ∈ front, ¬ IsHelp w)
    (known : IsKnown word) : Accepted (front ++ word :: back) := by
  obtain ⟨before, behind, apart⟩ := List.pairwise_append.1 accepted.helpLast
  constructor
  case known =>
    intro w hw option
    rcases List.mem_append.1 hw with hw | hw
    · exact accepted.known w (List.mem_append_left _ hw) option
    · rcases List.mem_cons.1 hw with rfl | hw
      · exact known
      · exact accepted.known w (List.mem_append_right _ hw) option
  case helpLast =>
    refine List.pairwise_append.2 ⟨before, List.pairwise_cons.2 ⟨fun w _ help => ?_, behind⟩, ?_⟩
    · exact absurd known.isOption help.not_isOption
    · exact fun w hw v _ help => absurd help (noHelp w hw)

/-- What stands before a word is still accepted if a known option is put in, and asks for help as
before. -/
theorem Accepted.exists_insert {front back before behind : List String} {word known : String}
    (all : front ++ back = before ++ word :: behind) (accepted : Accepted before)
    (noHelp : ∀ w ∈ front, ¬ IsHelp w) (isKnown : IsKnown known) :
    ∃ before' behind', front ++ known :: back = before' ++ word :: behind' ∧ Accepted before' ∧
      ((∃ w ∈ before', IsHelp w) ↔ ∃ w ∈ before, IsHelp w) := by
  have inFront (rest : List String) (back' : back = rest ++ word :: behind)
      (before' : before = front ++ rest) :
      ∃ before' behind', front ++ known :: back = before' ++ word :: behind' ∧ Accepted before' ∧
        ((∃ w ∈ before', IsHelp w) ↔ ∃ w ∈ before, IsHelp w) := by
    subst back' before'
    refine ⟨front ++ known :: rest, behind, by simp, accepted.insert noHelp isKnown, ?_⟩
    have noAnswer : ¬ IsHelp known := fun help => help.not_isOption isKnown.isOption
    simp [or_and_right, exists_or, noAnswer]
  obtain ⟨rest, hbefore, hback⟩ | ⟨rest, hfront, hrest⟩ := List.append_eq_append_iff.1 all
  · exact inFront rest hback hbefore
  · cases rest with
    | nil => exact inFront [] (by simpa using hrest.symm) (by simpa using hfront.symm)
    | cons first rest =>
      obtain ⟨rfl, rfl⟩ := List.cons.inj hrest
      exact ⟨before, rest ++ known :: back, by simp [hfront], accepted, Iff.rfl⟩

/-- What is refused stays so, for the same reason, if a known option is put in before the requests
for help. -/
theorem Refused.insert {front back : List String} {known : String} {r : Refusal}
    (refused : Refused (front ++ back) r) (noHelp : ∀ w ∈ front, ¬ IsHelp w)
    (isKnown : IsKnown known) : Refused (front ++ known :: back) r := by
  generalize all : front ++ back = words at refused
  cases refused with
  | unknownOption accepted plain option unknown =>
    obtain ⟨before, behind, all', accepted', help⟩ :=
      accepted.exists_insert all noHelp isKnown
    rw [all']
    refine .unknownOption accepted' (fun w hw asks => ?_) option unknown
    obtain ⟨w', hw', asks'⟩ := help.1 ⟨w, hw, asks⟩
    exact plain w' hw' asks'
  | optionAfterHelp accepted asks option =>
    obtain ⟨before, behind, all', accepted', help⟩ :=
      accepted.exists_insert all noHelp isKnown
    rw [all']
    exact .optionAfterHelp accepted' (help.2 asks) option

namespace WithVerbose

variable {words more : List String}

theorem optionWords (h : WithVerbose words more) :
    WithVerbose (LoxLexer.optionWords words) (LoxLexer.optionWords more) := by
  induction h with
  | same => exact .same
  | @insert front back _ before ih =>
    have ends : ∀ word ∈ front, word ≠ "--" := fun word hw => (before word hw).1
    rw [optionWords_append ends] at ih ⊢
    exact .insert ih before

theorem plainWords (h : WithVerbose words more) :
    LoxLexer.plainWords more = LoxLexer.plainWords words := by
  induction h with
  | same => rfl
  | @insert front back _ before ih =>
    have ends : ∀ word ∈ front, word ≠ "--" := fun word hw => (before word hw).1
    rw [plainWords_append ends] at ih ⊢
    exact ih

/-- No other words than `--verbose` are put in. -/
theorem exists_mem_iff {p : String → Prop} (h : WithVerbose words more) (other : ¬ p "--verbose") :
    (∃ word ∈ more, p word) ↔ ∃ word ∈ words, p word := by
  induction h with
  | same => rfl
  | insert _ _ ih =>
    rw [← ih]
    simp [or_and_right, exists_or, other]

theorem scriptWords (h : WithVerbose words more) :
    LoxLexer.scriptWords more = LoxLexer.scriptWords words := by
  have named : ∀ {words more : List String}, WithVerbose words more →
      more.filter (fun word => ¬ IsHelp word ∧ ¬ IsOption word) =
        words.filter fun word => ¬ IsHelp word ∧ ¬ IsOption word := by
    intro words more h
    induction h with
    | same => rfl
    | insert _ _ ih =>
      have option : IsOption "--verbose" := by decide
      rw [← ih, List.filter_append, List.filter_cons_of_neg (by simp [option]), List.filter_append]
  rw [LoxLexer.scriptWords, LoxLexer.scriptWords, h.plainWords, named h.optionWords]

theorem accepted (h : WithVerbose words more) (accepted : Accepted words) : Accepted more := by
  induction h with
  | same => exact accepted
  | insert _ before ih => exact ih.insert (fun w hw => (before w hw).2) (.inr rfl)

theorem refused {r : Refusal} (h : WithVerbose words more) (refused : Refused words r) :
    Refused more r := by
  induction h with
  | same => exact refused
  | insert _ before ih => exact ih.insert (fun w hw => (before w hw).2) (.inr rfl)

end WithVerbose

/-! ### What is answered -/

/-- **Words that do not ask for the prompt name a script that is scanned, or they are answered
alike** under all settings and with or without `--verbose`, and nothing is logged. -/
theorem scanned_or_answered {words : List String} (answers : ¬ AsksForPrompt words)
    (files : Files) (drawing : Drawing) :
    (∃ path, ∃ source : String, files.Holds path source.toUTF8 ∧ ∀ more, WithVerbose words more →
      AsksFor more (decide ("--verbose" ∈ optionWords more)) path) ∨
    ∃ o : Outcome, o.events = [] ∧ ∀ more, WithVerbose words more → ∀ setting,
      run setting files more drawing = some o := by
  have none {p : String → Prop} (other : ¬ p "--verbose")
      (h : ∀ word ∈ optionWords words, ¬ p word) {more : List String}
      (more' : WithVerbose words more) : ∀ word ∈ optionWords more, ¬ p word := by
    simpa using (more'.optionWords.exists_mem_iff other).not.2 (by simpa using h)
  cases asked words with
  | @refused r refused =>
    exact .inr ⟨.refused r, rfl, fun more h setting =>
      run_of_refused setting files drawing (h.optionWords.refused refused)⟩
  | help accepted help =>
    exact .inr ⟨.printed usageText, rfl, fun more h setting =>
      run_of_help setting files drawing (h.optionWords.accepted accepted)
        ((h.optionWords.exists_mem_iff (by decide)).2 help)⟩
  | version accepted noHelp version =>
    exact .inr ⟨.printed versionText, rfl, fun more h setting =>
      run_of_version setting files drawing (h.optionWords.accepted accepted)
        (none (by decide) noHelp h) ((h.optionWords.exists_mem_iff (by decide)).2 version)⟩
  | several accepted noHelp noVersion several =>
    exact .inr ⟨.failed (.usage "lox [script file]"), rfl, fun more h setting =>
      run_of_several setting files drawing (h.optionWords.accepted accepted)
        (none (by decide) noHelp h) (none (by decide) noVersion h) (h.scriptWords ▸ several)⟩
  | @script path accepted noHelp noVersion script =>
    cases read : files.read path with
    | ok source =>
      exact .inl ⟨path, source, Files.read_eq_ok_iff.1 read, fun more h =>
        asksFor_of_script (h.optionWords.accepted accepted) (none (by decide) noHelp h)
          (none (by decide) noVersion h) (h.scriptWords.trans script)⟩
    | error e =>
      refine .inr ⟨.failed (.unreadable path e.message), rfl, fun more h setting => ?_⟩
      rw [run_of_script setting files drawing (h.optionWords.accepted accepted)
        (none (by decide) noHelp h) (none (by decide) noVersion h)
        (h.scriptWords.trans script), read, runScript]
  | prompt asks => exact absurd asks answers

/-! ### Two runs -/

/-- One script is asked for, and it can be read. -/
def ScansScript (files : Files) (words : List String) : Prop :=
  ∃ verbose path, AsksFor words verbose path ∧ files.Readable path

/-- Single tokens are logged if a script is scanned and the option and the log setting, which is a
plain one, let them through. -/
def Outcome.LogsTokensAsSet (o : Outcome) (setting : Option String) (files : Files)
    (words : List String) : Prop :=
  ∀ rule, Logs (decide ("--verbose" ∈ optionWords words)) setting rule →
    (o.LogsTokens ↔ ScansScript files words ∧ rule "lox_scan::scanner" .trace = true)

/-- The log of a script that is scanned is not empty under all settings. -/
theorem exists_run_events_ne_nil {files : Files} {words : List String}
    (scans : ScansScript files words) (drawing : Drawing) :
    ∃ setting o, run setting files words drawing = some o ∧ o.events ≠ [] := by
  obtain ⟨verbose, path, asked, readable⟩ := scans
  obtain ⟨source, held⟩ := Files.readable_iff.1 readable
  have admitted : (Event.opened path source.utf8ByteSize).admittedBy
      ((scriptOptions verbose path).filter (some "trace")) = true := by
    cases verbose with
    | true => exact (Logs.verbose (some "trace")).admittedBy path _
    | false =>
      have trace : Limit.everything.SpelledAs "trace" := by decide
      exact (Logs.plain (.level trace)).admittedBy path _
  refine ⟨_, _, run_script asked held (some "trace") drawing, ?_⟩
  rw [events_scanScript, scriptEvents, List.cons_append, List.filter_cons_of_pos admitted]
  simp

theorem logsTokensAsSet_scanScript {files : Files} {words : List String} {path source : String}
    (asked : AsksFor words (decide ("--verbose" ∈ optionWords words)) path)
    (held : files.Holds path source.toUTF8) (setting : Option String) (drawing : Drawing) :
    (scanScript drawing ((scriptOptions (decide ("--verbose" ∈ optionWords words)) path).filter
      setting) path source).LogsTokensAsSet setting files words := by
  intro rule logs
  have scans : ScansScript files words :=
    ⟨_, path, asked, Files.readable_iff.2 ⟨source, held⟩⟩
  have admitted : Filter.admitsTokens ((scriptOptions (decide ("--verbose" ∈ optionWords words))
      path).filter setting) = rule "lox_scan::scanner" .trace :=
    logs.admittedBy path (.token (Token.endOfText Place.start))
  rw [logsTokens_scanScript, and_iff_right scans, admitted]

/-- So does a run that logs nothing under any setting, since it scans no script. -/
theorem logsTokensAsSet_of_events_eq_nil {files : Files} {drawing : Drawing} {words : List String}
    {o : Outcome} (events : o.events = [])
    (ran : ∀ setting, run setting files words drawing = some o) (setting : Option String) :
    o.LogsTokensAsSet setting files words := by
  intro rule _
  refine iff_of_false (by simp [Outcome.LogsTokens, events]) fun ⟨scans, _⟩ => ?_
  obtain ⟨setting', o', ran', logged⟩ := exists_run_events_ne_nil scans drawing
  obtain rfl := Option.some.inj ((ran setting').symm.trans ran')
  exact logged events

/-- Two outcomes are the same but for what is logged. -/
structure Outcome.SameResults (o o' : Outcome) : Prop where
  /-- The exit status is the same. -/
  exitStatus : o.exitStatus = o'.exitStatus
  /-- The same is printed. -/
  stdout : o.stdout = o'.stdout
  /-- The same errors are reported. -/
  reports : o.notes.filterMap Note.report? = o'.notes.filterMap Note.report?
  /-- The summary is the same, unless one of them logs single tokens, the other does not, and one of
  these tokens feigns a report. -/
  summary : o.summary = o'.summary ↔
    ((o.LogsTokens ↔ o'.LogsTokens) ∨
      ∀ t, Event.token t ∈ o.events ∨ Event.token t ∈ o'.events → ¬ t.FeignsReport)

theorem scanScript_sameResults (drawing : Drawing) (filter filter' : Filter)
    (path source : String) :
    (scanScript drawing filter path source).SameResults
      (scanScript drawing filter' path source) := by
  constructor
  case exitStatus => rw [exitStatus_scanScript, exitStatus_scanScript]
  case stdout => rfl
  case reports => rw [reports_scanScript, reports_scanScript]
  case summary =>
    rw [summary_scanScript_eq_iff, logsTokens_scanScript, logsTokens_scanScript]
    simp only [token_mem_events_scanScript]
    cases filter.admitsTokens <;> cases filter'.admitsTokens <;> simp

/-- **The log setting and the option `--verbose` do not change the results of a run**, but for lines
of the summary that are made by the texts of logged tokens; and such tokens are logged only if the
setting lets them through and `--verbose` is not given. -/
theorem run_settings {words more more' : List String} (answers : ¬ AsksForPrompt words)
    (h : WithVerbose words more) (h' : WithVerbose words more') (setting setting' : Option String)
    (files : Files) (drawing : Drawing) :
    ∃ o o', run setting files more drawing = some o ∧ run setting' files more' drawing = some o' ∧
      o.SameResults o' ∧ o.LogsTokensAsSet setting files more ∧
        o'.LogsTokensAsSet setting' files more' := by
  rcases scanned_or_answered answers files drawing with
    ⟨path, source, held, asked⟩ | ⟨o, events, ran⟩
  · exact ⟨_, _, run_script (asked more h) held setting drawing,
      run_script (asked more' h') held setting' drawing,
      scanScript_sameResults drawing _ _ path source,
      logsTokensAsSet_scanScript (asked more h) held setting drawing,
      logsTokensAsSet_scanScript (asked more' h') held setting' drawing⟩
  · exact ⟨o, o, ran more h setting, ran more' h' setting', ⟨rfl, rfl, rfl, by simp⟩,
      logsTokensAsSet_of_events_eq_nil events (ran more h) setting,
      logsTokensAsSet_of_events_eq_nil events (ran more' h') setting'⟩

/-- A string that feigns a report, with `--verbose` and with a limit for the scanner. -/
theorem run_settings_string :
    ¬ AsksForPrompt ["a.lox"] ∧ WithVerbose ["a.lox"] ["--verbose", "a.lox"] ∧
      ∃ o o', run (some "trace") (Directory.mk [("a.lox", "\"\n[line 7]\"".toUTF8)])
          ["--verbose", "a.lox"] .outline = some o ∧
        run (some ("lox_scan" ++ "=" ++ "Trace"))
          (Directory.mk [("a.lox", "\"\n[line 7]\"".toUTF8)]) ["a.lox"] .outline = some o' ∧
        o.SameResults o' ∧ ¬ o.LogsTokens ∧ o'.LogsTokens := by
  have answers : ¬ AsksForPrompt ["a.lox"] := fun asks => by cases asks.noScript
  have more : WithVerbose ["a.lox"] ([] ++ "--verbose" :: ["a.lox"]) := .insert .same (by simp)
  have held : (Directory.mk [("a.lox", "\"\n[line 7]\"".toUTF8)]).reach.Holds "a.lox"
      "\"\n[line 7]\"".toUTF8 := Directory.holds_iff.2 ⟨by decide, by decide, rfl⟩
  have scans : ScansScript (Directory.mk [("a.lox", "\"\n[line 7]\"".toUTF8)]) ["a.lox"] :=
    ⟨false, "a.lox", rfl, Files.readable_iff.2 ⟨_, held⟩⟩
  have trace : Limit.everything.SpelledAs "Trace" := by decide
  have plain : ∀ c ∈ "lox_scan".toList, c ≠ ',' ∧ c ≠ '=' ∧ c ≠ '[' := by simp
  obtain ⟨o, o', ran, ran', same, asSet, asSet'⟩ := run_settings answers more .same (some "trace")
    (some ("lox_scan" ++ "=" ++ "Trace")) (Directory.mk [("a.lox", "\"\n[line 7]\"".toUTF8)])
    .outline
  refine ⟨answers, more, o, o', ran, ran', same, fun logs => ?_, ?_⟩
  · have admitted := ((asSet _ (.verbose (some "trace"))).1 logs).2
    cases admitted
  · exact (asSet' _ (.plain (.scope trace (by decide) plain))).2 ⟨scans, by decide⟩

/-- **A log setting may add to the summary**: a string that feigns a report is logged at trace
level. -/
theorem summary_of_logged_string :
    ¬ AsksForPrompt ["a.lox"] ∧ Limit.everything.SpelledAs "trace" ∧
      (run (some "trace") (Directory.mk [("a.lox", "\"\n[line 7]\"".toUTF8)]) ["a.lox"]
          .outline).map (·.summary) = some ["[line 7]\" ", "[line 7] position=[1:0..11]"] ∧
      (run none (Directory.mk [("a.lox", "\"\n[line 7]\"".toUTF8)]) ["a.lox"]
          .outline).map (·.summary) = some [] := by
  have answers : ¬ AsksForPrompt ["a.lox"] := fun asks => by cases asks.noScript
  have held : (Directory.mk [("a.lox", "\"\n[line 7]\"".toUTF8)]).reach.Holds "a.lox"
      "\"\n[line 7]\"".toUTF8 := Directory.holds_iff.2 ⟨by decide, by decide, rfl⟩
  refine ⟨answers, by decide, ?_, ?_⟩ <;>
    rw [run_script (show AsksFor ["a.lox"] false "a.lox" from rfl) held, Option.map_some,
      summary_scanScript] <;>
    decide +kernel

end LoxLexer
