/-!
# Arguments

The words after the command's name. Words that begin with a hyphen are options until the word `--`
ends them; all other words name scripts, and options may still follow those. A request for help is
answered at the end of the words, but no option may stand after it.
-/

namespace LoxLexer

/-- What the options and names ask for. -/
structure Options where
  /-- Print the version. -/
  version : Bool
  /-- Log the scan. -/
  verbose : Bool
  /-- The scripts, in the order named. -/
  scripts : List String
  deriving DecidableEq, Repr

/-- Why arguments are refused. -/
inductive Refusal where
  /-- There is no such option. -/
  | unknownOption (word : String)
  /-- An option stands after a request for help. -/
  | optionAfterHelp
  deriving DecidableEq, Repr

/-- What accepted arguments ask for. -/
inductive Request where
  /-- The usage text. -/
  | help
  /-- A run with these options. -/
  | run (options : Options)
  deriving DecidableEq, Repr

/-- The arguments read so far. -/
structure Reading where
  /-- Help was asked for. -/
  help : Bool
  /-- Options are ended. -/
  ended : Bool
  /-- The options and names read. -/
  options : Options
  deriving DecidableEq, Repr

namespace Reading

/-- Nothing read yet. -/
def start : Reading := ⟨false, false, ⟨false, false, []⟩⟩

/-- Reads a word that begins with a hyphen and is an option. -/
def option (r : Reading) (word : String) : Except Refusal Reading :=
  if word = "--" then .ok { r with ended := true }
  else if r.help then .error .optionAfterHelp
  else if word = "-v" ∨ word = "--version" then
    .ok { r with options.version := true }
  else if word = "--verbose" then .ok { r with options.verbose := true }
  else .error (.unknownOption word)

/-- Reads one word. -/
def word (r : Reading) (word : String) : Except Refusal Reading :=
  if ¬ r.ended ∧ (word = "--help" ∨ word = "help") then .ok { r with help := true }
  else if ¬ r.ended ∧ word.toList.head? = some '-' then r.option word
  else .ok { r with options.scripts := r.options.scripts ++ [word] }

end Reading

/-- Reads all words. -/
def Request.read (words : List String) : Except Refusal Request := do
  let r ← words.foldlM Reading.word Reading.start
  return if r.help then .help else .run r.options

end LoxLexer
