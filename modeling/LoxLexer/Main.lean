import LoxLexer.Command.Run

/-!
# The command

The outer layer of the command: it fetches the arguments, the log setting and the bytes of the
script, and delivers the outcome that the library computes from them.
-/

namespace LoxLexer

/-- Some cause in these words, which are put on a single line. -/
def ReadError.ofWords (words : String) : ReadError :=
  .other (String.ofList (words.toList.filter (· ≠ '\n'))) (by simp)

/-- The cause with this number, which systems give with either sign, or else in these words. -/
def ReadError.ofCode (code : UInt32) (details : String) : ReadError :=
  if code = 20 ∨ -code = 20 then .notDirectory
  else if code = 21 ∨ -code = 21 then .isDirectory
  else if code = 36 ∨ -code = 36 then .nameTooLong
  else .ofWords details

/-- Why a file could not be read. -/
def ReadError.ofFailure : IO.Error → ReadError
  | .noFileOrDirectory .. => .missing
  | .inappropriateType _ code details => .ofCode code details
  | .invalidArgument _ code details => .ofCode code details
  | failure => .ofWords (toString failure)

/-- Reads the script at a path. -/
def readScript (path : String) : IO (Except ReadError String) := do
  try
    return readText (← IO.FS.readBinFile path)
  catch failure =>
    return .error (.ofFailure failure)

/-- Writes what an outcome says and returns its exit status. -/
def Outcome.deliver (o : Outcome) : IO UInt32 := do
  IO.eprint o.stderr
  IO.print o.stdout
  return o.exitStatus.toUInt32

/-- Scans standard input line by line until it ends. -/
partial def runPrompt (filter : Filter) : IO UInt32 := do
  IO.print "> "
  let line ← (← IO.getStdin).getLine
  if line.isEmpty then return 0
  let ending := if line.endsWith "\n" then 1 else 0
  let source := (line.dropEnd ending).copy
  let console := (ConsoleReporter.new .outline).setSource "<stdin>" source
  let _ ← (scanText filter console source).deliver
  runPrompt filter

end LoxLexer

/-- Runs the command with the given arguments. -/
def main (words : List String) : IO UInt32 := do
  match LoxLexer.plan (← IO.getEnv "RUST_LOG") words with
  | .done outcome => outcome.deliver
  | .prompt filter => LoxLexer.runPrompt filter
  | .script filter path =>
    let script ← LoxLexer.readScript path
    (LoxLexer.runScript .outline filter path script).deliver
