import LoxLexer.Command.Arguments
import LoxLexer.Command.Console
import LoxLexer.Command.Directory

/-!
# Running the command

Arguments decide what is to be done, in a fixed order: refused arguments stop the run, then help and
the version are answered, then more than one script is a wrong use. What is left is one script,
which is read and scanned, or none, which asks for the prompt.
-/

namespace LoxLexer

/-- The usage text. -/
def usageText : String :=
  "Usage: lox [-v] [--verbose] [--] [<script...>]\n" ++
  "\n" ++
  "Scan a lox script and print its tokens, or run an interactive prompt.\n" ++
  "\n" ++
  "Positional Arguments:\n" ++
  "  script            script file\n" ++
  "\n" ++
  "Options:\n" ++
  "  -v, --version     print version information\n" ++
  "  --verbose         log scanner activity to stderr\n" ++
  "  --help, help      display usage information\n" ++
  "\n"

/-- The version line. -/
def versionText : String := "lox-scan 0.1.0\n"

/-- What is said about refused arguments. -/
def Refusal.display : Refusal → String
  | unknownOption word =>
    "Unrecognized argument: " ++ word ++ "\n\nRun lox --help for more information.\n"
  | optionAfterHelp =>
    "Trailing arguments are not allowed after `help`.\nRun lox --help for more information.\n"

namespace Outcome

/-- A run that only prints. -/
def printed (text : String) : Outcome := ⟨0, text, []⟩

/-- A run that stops at refused arguments. -/
def refused (r : Refusal) : Outcome := ⟨1, "", [.complaint r.display]⟩

/-- A run that fails. -/
def failed (f : Failure) : Outcome := ⟨f.exitStatus, "", [.complaint f.display]⟩

end Outcome

/-! ### Scanning a script -/

/-- The tokens of a scan as they are printed, one after another, each followed by a newline. -/
def Scan.print (s : Scan) : String := String.join (s.tokens.map fun t => t.display ++ "\n")

/-- The line on which a text ends. -/
def lastLine (source : String) : Nat := (Place.start.after source.toList).line

/-- A scan tells the console what it finds, one finding after another, and that it is finished. -/
def ConsoleReporter.takeScan (filter : Filter) (console : ConsoleReporter) (source : String) :
    ConsoleReporter :=
  let found := scan source
  (found.findings.foldl (take filter) console).log filter
    (.finished found.tokens.length (lastLine source))

/-- The outcome of scanning a text: all tokens are printed, whether or not there are errors, and the
reporter decides about the exit status. -/
def scanText (filter : Filter) (console : ConsoleReporter) (source : String) : Outcome :=
  let told := console.takeScan filter source
  { exitStatus := if Reporter.hadError told then 65 else 0
    stdout := (scan source).print
    notes := told.notes }

/-- The outcome of scanning a script, which is logged before its scan. -/
def scanScript (drawing : Drawing) (filter : Filter) (path source : String) : Outcome :=
  let console := (ConsoleReporter.new drawing).log filter (.opened path source.utf8ByteSize)
  scanText filter (console.setSource path source) source

/-- The outcome for the script at a path, once it was tried to be read. -/
def runScript (drawing : Drawing) (filter : Filter) (path : String) :
    Except ReadError String → Outcome
  | .ok source => scanScript drawing filter path source
  | .error e => .failed (.unreadable path e.message)

/-! ### The whole run -/

/-- What is to be done. -/
inductive Plan where
  /-- Nothing more, the outcome is known. -/
  | done (outcome : Outcome)
  /-- Run the prompt. -/
  | prompt (filter : Filter)
  /-- Read and scan the script at a path. -/
  | script (filter : Filter) (path : String)
  deriving DecidableEq, Repr

/-- What is logged: with `--verbose` everything but single tokens, else what the setting says. -/
def Options.filter (o : Options) (setting : Option String) : Filter :=
  if o.verbose then .everywhere (.upTo .debug) else .ofSetting setting

/-- What accepted options ask for. -/
def Options.plan (o : Options) (setting : Option String) : Plan :=
  if o.version then .done (.printed versionText)
  else match o.scripts with
    | [] => .prompt (o.filter setting)
    | [path] => .script (o.filter setting) path
    | _ => .done (.failed (.usage "lox [script file]"))

/-- What arguments ask for, under a log setting. -/
def plan (setting : Option String) (words : List String) : Plan :=
  match Request.read words with
  | .error r => .done (.refused r)
  | .ok .help => .done (.printed usageText)
  | .ok (.run o) => o.plan setting

/-- The outcome of the command, with what it can read and how it draws errors, unless it runs the
prompt. -/
def run (setting : Option String) (files : Files) (words : List String)
    (drawing : Drawing := .outline) : Option Outcome :=
  match plan setting words with
  | .done outcome => some outcome
  | .prompt _ => none
  | .script filter path => some (runScript drawing filter path (files.read path))

end LoxLexer
