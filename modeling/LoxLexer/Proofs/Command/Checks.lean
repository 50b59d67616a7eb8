import LoxLexer.Proofs.Command.Arguments
import LoxLexer.Proofs.Command.Summary

/-!
# The order of the checks

A run comes to its result in a fixed order of checks: refused arguments, a request for help, one for
the version, several scripts, and a script that cannot be read. The first that applies decides, and
what fails leaves nothing but a complaint: **`run_checked`**. A complaint may quote a word of the
arguments, and then standard error shows what a report looks like if the word does.
-/

namespace LoxLexer

/-! ### Complaints -/

/-- The run leaves a complaint and nothing else: it prints, draws, reports and logs nothing. A line
on standard error looks like a report only if the complaint quotes one. -/
structure Outcome.FailsQuoting (o : Outcome) (quoted : String) : Prop where
  /-- A complaint is all that is written to standard error. -/
  complaint : ∃ text, o.notes = [.complaint text]
  /-- Nothing is printed. -/
  stdout : o.stdout = ""
  /-- No error is reported. -/
  reports : o.notes.filterMap Note.report? = []
  /-- Nothing is logged. -/
  events : o.events = []
  /-- The summary is empty if the text quoted does not feign a report. -/
  summary : o.summary = [] ↔ ¬ FeignsReport quoted.toList

theorem summary_of_complaint (status : Nat) (stdout text : String) :
    (Outcome.mk status stdout [.complaint text]).summary = reportLines text.toList := by
  change reportLines (String.join [text]).toList = _
  simp

/-- A complaint with a quoted text up to the end of a line, between texts that do not look like
reports. -/
theorem failsQuoting_of_complaint (c : Char) (front back : List Char) {status : Nat}
    {text quoted : String} (parts : text.toList = c :: front ++ quoted.toList ++ '\n' :: back)
    (single : '\n' ∉ c :: front) (bracket : c ≠ '[') (behind : reportLines back = []) :
    (Outcome.mk status "" [.complaint text]).FailsQuoting quoted := by
  refine ⟨⟨text, rfl⟩, rfl, rfl, rfl, ?_⟩
  have begins : ¬ Outcome.reportMark <+: c :: front ++ quoted.toList :=
    not_reportMark_of_head fun h => bracket (Option.some.inj h)
  rw [summary_of_complaint, parts, reportLines_append_newline, behind, List.append_nil,
    reportLines_eq_nil_iff, and_iff_right begins, FeignsReport, infix_append_iff_of_not_mem single,
    FeignsReport]

/-- The word that is quoted when arguments are refused. -/
def Refusal.quoted : Refusal → String
  | unknownOption word => word
  | optionAfterHelp => ""

theorem refused_failsQuoting (r : Refusal) : (Outcome.refused r).FailsQuoting r.quoted := by
  cases r with
  | unknownOption word =>
    refine failsQuoting_of_complaint 'U' "nrecognized argument: ".toList
      "\nRun lox --help for more information.\n".toList ?_ (by decide) (by decide)
      (by decide +kernel)
    show ("Unrecognized argument: " ++ word ++
      "\n\nRun lox --help for more information.\n").toList = _
    rw [String.toList_append, String.toList_append]
    rfl
  | optionAfterHelp =>
    exact failsQuoting_of_complaint 'T' "railing arguments are not allowed after `help`.".toList
      "Run lox --help for more information.\n".toList (by decide +kernel) (by decide) (by decide)
      (by decide +kernel)

theorem usage_failsQuoting : (Outcome.failed (.usage "lox [script file]")).FailsQuoting "" :=
  failsQuoting_of_complaint 'U' "sage: lox [script file]".toList [] rfl (by decide) (by decide)
    (by decide)

theorem unreadable_failsQuoting (path : String) {cause : String} (single : '\n' ∉ cause.toList) :
    (Outcome.failed (.unreadable path cause)).FailsQuoting path := by
  have line : '\n' ∉ "  caused by: ".toList ++ cause.toList := by simp [single]
  refine failsQuoting_of_complaint 'C' "ould not read from file ".toList
    ("  caused by: ".toList ++ cause.toList ++ ['\n']) ?_ (by decide) (by decide) ?_
  · show ("Could not read from file " ++ path ++ "\n" ++
      ("  caused by: " ++ cause ++ "\n")).toList = _
    simp only [String.toList_append, List.append_assoc]
    rfl
  · rw [reportLines_single line]
    rfl

/-! ### Reading -/

theorem readText_eq_ok_iff {bytes : ByteArray} {text : String} :
    readText bytes = .ok text ↔ bytes = text.toUTF8 := by
  constructor
  · intro h
    cases read : String.fromUTF8? bytes with
    | none =>
      rw [readText, read] at h
      cases h
    | some found =>
      rw [readText, read] at h
      obtain rfl := Except.ok.inj h
      rw [String.fromUTF8?] at read
      split at read
      · obtain rfl := Option.some.inj read
        rfl
      · cases read
  · rintro rfl
    exact readText_toUTF8 text

theorem ReadError.newline_not_mem_message (e : ReadError) : '\n' ∉ e.message.toList := by
  cases e with
  | other description singleLine => exact singleLine
  | _ => simp [message]

/-- There are bytes at the path, and they are the encoding of a text. -/
def Files.Readable (files : Files) (path : String) : Prop :=
  ∃ bytes, files.Holds path bytes ∧ bytes.IsValidUTF8

section

variable {files : Files} {path : String}

theorem Files.readable_iff :
    files.Readable path ↔ ∃ source : String, files.Holds path source.toUTF8 := by
  constructor
  · rintro ⟨bytes, held, valid⟩
    exact ⟨⟨bytes, valid⟩, held⟩
  · rintro ⟨source, held⟩
    exact ⟨source.toUTF8, held, source.isValidUTF8⟩

theorem Files.read_eq_ok_iff {source : String} :
    files.read path = .ok source ↔ files.Holds path source.toUTF8 := by
  constructor
  · intro h
    cases there : files.bytes path with
    | ok bytes =>
      have held : files.Holds path bytes := there
      rw [held.read, readText_eq_ok_iff] at h
      exact h ▸ held
    | error e =>
      rw [Files.read, there] at h
      cases h
  · intro held
    rw [held.read, readText_toUTF8]

end

/-! ### The checks -/

section

variable {words : List String} (setting : Option String) (files : Files) (drawing : Drawing)

theorem run_of_refused {r : Refusal} (h : Refused (optionWords words) r) :
    run setting files words drawing = some (.refused r) := by
  rw [run, plan, read_of_refused h]

theorem run_of_help (accepted : Accepted (optionWords words))
    (help : ∃ word ∈ optionWords words, IsHelp word) :
    run setting files words drawing = some (.printed usageText) := by
  rw [run, plan, read_of_accepted accepted, if_pos help]

variable (accepted : Accepted (optionWords words))
  (noHelp : ∀ word ∈ optionWords words, ¬ IsHelp word)

include accepted noHelp

theorem plan_of_accepted : plan setting words =
    Options.plan ⟨(optionWords words).any (IsVersion ·), (optionWords words).any (· = "--verbose"),
      scriptWords words⟩ setting := by
  have plain : ¬ ∃ word ∈ optionWords words, IsHelp word := by simpa using noHelp
  rw [plan, read_of_accepted accepted, if_neg plain]

theorem run_of_version (version : ∃ word ∈ optionWords words, IsVersion word) :
    run setting files words drawing = some (.printed versionText) := by
  have asked : (optionWords words).any (IsVersion ·) = true := by simpa using version
  rw [run, plan_of_accepted setting accepted noHelp, Options.plan, if_pos asked]

variable (noVersion : ∀ word ∈ optionWords words, ¬ IsVersion word)

include noVersion

theorem run_of_several (several : 2 ≤ (scriptWords words).length) :
    run setting files words drawing = some (.failed (.usage "lox [script file]")) := by
  have asked : ¬ (optionWords words).any (IsVersion ·) = true := by simpa using noVersion
  obtain ⟨first, second, more, scripts⟩ :
      ∃ first second more, scriptWords words = first :: second :: more := by
    match scriptWords words, several with
    | first :: second :: more, _ => exact ⟨first, second, more, rfl⟩
  rw [run, plan_of_accepted setting accepted noHelp, Options.plan, if_neg asked, scripts]

theorem asksFor_of_script {path : String} (script : scriptWords words = [path]) :
    AsksFor words (decide ("--verbose" ∈ optionWords words)) path := by
  have plain : ¬ ∃ word ∈ optionWords words, IsHelp word := by simpa using noHelp
  have version : (optionWords words).any (IsVersion ·) = false := by simpa using noVersion
  have verbose : (optionWords words).any (· = "--verbose") =
      decide ("--verbose" ∈ optionWords words) := by
    rw [Bool.eq_iff_iff]
    simp
  rw [AsksFor, read_of_accepted accepted, if_neg plain, version, verbose, script, scriptOptions]

theorem run_of_script {path : String} (script : scriptWords words = [path]) :
    run setting files words drawing = some (runScript drawing ((scriptOptions
      (decide ("--verbose" ∈ optionWords words)) path).filter setting) path (files.read path)) := by
  rw [run, plan, asksFor_of_script accepted noHelp noVersion script]
  rfl

end

theorem exitStatus_scanScript_eq (drawing : Drawing) (filter : Filter) (path source : String) :
    (scanScript drawing filter path source).exitStatus = 0 ∨
      (scanScript drawing filter path source).exitStatus = 65 := by
  rw [exitStatus_scanScript]
  split
  · exact .inr rfl
  · exact .inl rfl

/-- A run on one script fails if it cannot be read, and else scans it. -/
theorem runScript_read (drawing : Drawing) (filter : Filter) (files : Files) (path : String) :
    (files.Readable path ∧
      ((runScript drawing filter path (files.read path)).exitStatus = 0 ∨
        (runScript drawing filter path (files.read path)).exitStatus = 65)) ∨
      ¬ files.Readable path ∧ (runScript drawing filter path (files.read path)).exitStatus = 74 ∧
        (runScript drawing filter path (files.read path)).FailsQuoting path := by
  cases read : files.read path with
  | ok source =>
    have readable : files.Readable path :=
      Files.readable_iff.2 ⟨source, Files.read_eq_ok_iff.1 read⟩
    exact .inl ⟨readable, exitStatus_scanScript_eq drawing filter path source⟩
  | error e =>
    have unreadable : ¬ files.Readable path := by
      intro readable
      obtain ⟨source, held⟩ := Files.readable_iff.1 readable
      rw [Files.read_eq_ok_iff.2 held] at read
      cases read
    exact .inr ⟨unreadable, rfl, unreadable_failsQuoting path e.newline_not_mem_message⟩

/-- What a run leaves is decided by the first check that applies. -/
structure Outcome.Checked (o : Outcome) (setting : Option String) (files : Files)
    (words : List String) (drawing : Drawing) : Prop where
  /-- Refused arguments give exit status 1, whatever the rest asks for. -/
  refused : ∀ r, Refused (optionWords words) r → o.exitStatus = 1 ∧ o.FailsQuoting r.quoted
  /-- Otherwise a request for help is answered with the usage text. -/
  help : Accepted (optionWords words) → (∃ word ∈ optionWords words, IsHelp word) →
    o.exitStatus = 0 ∧ o.stdout = usageText
  /-- Otherwise a request for the version is answered, whatever scripts are named. -/
  version : Accepted (optionWords words) → (∀ word ∈ optionWords words, ¬ IsHelp word) →
    (∃ word ∈ optionWords words, IsVersion word) → o.exitStatus = 0 ∧ o.stdout = versionText
  /-- Otherwise several scripts give exit status 64, and no file makes a difference. -/
  several : Accepted (optionWords words) → (∀ word ∈ optionWords words, ¬ IsHelp word) →
    (∀ word ∈ optionWords words, ¬ IsVersion word) → 2 ≤ (scriptWords words).length →
    o.exitStatus = 64 ∧ o.FailsQuoting "" ∧ ∀ files', run setting files' words drawing = some o
  /-- Otherwise one script gives exit status 74 exactly if it cannot be read as text, and else one
  that tells of lexical errors. -/
  script : Accepted (optionWords words) → (∀ word ∈ optionWords words, ¬ IsHelp word) →
    (∀ word ∈ optionWords words, ¬ IsVersion word) → ∀ path, scriptWords words = [path] →
    (o.exitStatus = 74 ↔ ¬ files.Readable path) ∧
      (files.Readable path → o.exitStatus = 0 ∨ o.exitStatus = 65) ∧
      (¬ files.Readable path → o.FailsQuoting path)
  /-- What fails prints, reports and logs nothing, and shows what looks like a report only if its
  complaint quotes a word that does. -/
  failing : o.exitStatus = 1 ∨ o.exitStatus = 64 ∨ o.exitStatus = 74 →
    ∃ quoted, (quoted = "" ∨ quoted ∈ words) ∧ o.FailsQuoting quoted

/-- Words ask for the prompt, or a run on them has an outcome; if it fails, this is a complaint. -/
theorem asksForPrompt_or_run (setting : Option String) (files : Files) (words : List String)
    (drawing : Drawing) :
    AsksForPrompt words ∨ ∃ o, run setting files words drawing = some o ∧
      (o.exitStatus = 1 ∨ o.exitStatus = 64 ∨ o.exitStatus = 74 →
        ∃ quoted, (quoted = "" ∨ quoted ∈ words) ∧ o.FailsQuoting quoted) := by
  cases asked words with
  | @refused r refused =>
    refine .inr ⟨_, run_of_refused setting files drawing refused, fun _ => ⟨r.quoted, ?_,
      refused_failsQuoting r⟩⟩
    cases r with
    | unknownOption word => exact .inr (mem_of_mem_optionWords refused.mem)
    | optionAfterHelp => exact .inl rfl
  | help accepted help =>
    exact .inr ⟨_, run_of_help setting files drawing accepted help, by simp [Outcome.printed]⟩
  | version accepted noHelp version =>
    exact .inr ⟨_, run_of_version setting files drawing accepted noHelp version,
      by simp [Outcome.printed]⟩
  | several accepted noHelp noVersion several =>
    exact .inr ⟨_, run_of_several setting files drawing accepted noHelp noVersion several,
      fun _ => ⟨"", .inl rfl, usage_failsQuoting⟩⟩
  | @script path accepted noHelp noVersion script =>
    obtain ⟨filter, ran⟩ : ∃ filter, run setting files words drawing =
        some (runScript drawing filter path (files.read path)) :=
      ⟨_, run_of_script setting files drawing accepted noHelp noVersion script⟩
    have named : path ∈ words := mem_of_mem_scriptWords (by simp [script])
    refine .inr ⟨_, ran, fun status => ⟨path, .inr named, ?_⟩⟩
    rcases runScript_read drawing filter files path with ⟨-, done⟩ | ⟨-, -, fails⟩
    · omega
    · exact fails
  | prompt asks => exact .inl asks

/-- **Every run that is not asked for the prompt has the outcome of the first check that applies**,
and nothing but a complaint if it fails. -/
theorem run_checked (setting : Option String) (files : Files) (words : List String)
    (drawing : Drawing) (answers : ¬ AsksForPrompt words) :
    ∃ o, run setting files words drawing = some o ∧ o.Checked setting files words drawing := by
  obtain ⟨o, ran, failing⟩ :=
    (asksForPrompt_or_run setting files words drawing).resolve_left answers
  have only : ∀ {o'}, run setting files words drawing = some o' → o = o' := fun ran' =>
    Option.some.inj (ran.symm.trans ran')
  refine ⟨o, ran, ?_⟩
  constructor
  case refused =>
    intro r refused
    obtain rfl := only (run_of_refused setting files drawing refused)
    exact ⟨rfl, refused_failsQuoting r⟩
  case help =>
    intro accepted help
    obtain rfl := only (run_of_help setting files drawing accepted help)
    exact ⟨rfl, rfl⟩
  case version =>
    intro accepted noHelp version
    obtain rfl := only (run_of_version setting files drawing accepted noHelp version)
    exact ⟨rfl, rfl⟩
  case several =>
    intro accepted noHelp noVersion several
    obtain rfl := only (run_of_several setting files drawing accepted noHelp noVersion several)
    exact ⟨rfl, usage_failsQuoting, fun files' =>
      run_of_several setting files' drawing accepted noHelp noVersion several⟩
  case script =>
    intro accepted noHelp noVersion path script
    obtain rfl := only (run_of_script setting files drawing accepted noHelp noVersion script)
    rcases runScript_read drawing _ files path with ⟨readable, done⟩ | ⟨unreadable, status, fails⟩
    · exact ⟨⟨fun status => by omega, fun unreadable => absurd readable unreadable⟩, fun _ => done,
        fun unreadable => absurd readable unreadable⟩
    · exact ⟨⟨fun _ => unreadable, fun _ => status⟩, fun readable => absurd readable unreadable,
        fun _ => fails⟩
  case failing => exact failing

/-- A script with a byte that begins no character, behind a line of well-formed text. -/
theorem run_checked_illFormed :
    ¬ AsksForPrompt ["--verbose", "a.lox"] ∧
      ∃ o, run none (Directory.mk [("a.lox", ⟨#[0x31, 0x0A, 0xFF]⟩)]) ["--verbose", "a.lox"]
          .outline = some o ∧
        o.exitStatus = 74 ∧ o.FailsQuoting "a.lox" ∧ o.summary = [] := by
  have script : scriptWords ["--verbose", "a.lox"] = ["a.lox"] := by decide
  have answers : ¬ AsksForPrompt ["--verbose", "a.lox"] := by
    intro asks
    rw [asks.noScript] at script
    cases script
  have accepted : Accepted (optionWords ["--verbose", "a.lox"]) := ⟨by decide, by decide⟩
  have unreadable :
      ¬ (Directory.mk [("a.lox", ⟨#[0x31, 0x0A, 0xFF]⟩)]).reach.Readable "a.lox" := by
    intro readable
    obtain ⟨source, held⟩ := Files.readable_iff.1 readable
    have read := Files.read_eq_ok_iff.2 held
    have notText : (Directory.mk [("a.lox", ⟨#[0x31, 0x0A, 0xFF]⟩)]).reach.read "a.lox" =
        .error .notText := by decide +kernel
    rw [notText] at read
    cases read
  obtain ⟨o, ran, checked⟩ := run_checked none
    (Directory.mk [("a.lox", ⟨#[0x31, 0x0A, 0xFF]⟩)]) _ .outline answers
  obtain ⟨status, -, fails⟩ := checked.script accepted (by decide) (by decide) "a.lox" script
  exact ⟨answers, o, ran, status.2 unreadable, fails unreadable,
    (fails unreadable).summary.2 (by decide)⟩

/-- **A run that fails may show what looks like a report**: the path of a script that is not there
feigns one. -/
theorem summary_of_missing_script :
    (run none (Directory.mk []) ["x\n[line 3] y"] .outline).map
        (fun o => (o.exitStatus, o.summary)) = some (74, ["[line 3] y"]) := by
  have ran : run none (Directory.mk []) ["x\n[line 3] y"] .outline =
      some (.failed (.unreadable "x\n[line 3] y" ReadError.missing.message)) := by decide +kernel
  have shown : reportLines (Failure.unreadable "x\n[line 3] y"
      ReadError.missing.message).display.toList = ["[line 3] y"] := by decide +kernel
  rw [ran, Option.map_some, Outcome.failed, summary_of_complaint, shown]
  rfl

end LoxLexer
