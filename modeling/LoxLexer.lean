import LoxLexer.FaultAutomaton
import LoxLexer.Grammar.Written
import LoxLexer.Main
import LoxLexer.Proofs.Command.Agreement
import LoxLexer.Proofs.Command.Arguments
import LoxLexer.Proofs.Command.Checks
import LoxLexer.Proofs.Command.LoggedTokens
import LoxLexer.Proofs.Command.Record
import LoxLexer.Proofs.Command.Script
import LoxLexer.Proofs.Command.Summary
import LoxLexer.Proofs.Command.Verbosity
import LoxLexer.Proofs.Log.Settings
import LoxLexer.Proofs.Reader.Lines
import LoxLexer.Proofs.Scan.Adjacent
import LoxLexer.Proofs.Scan.Blanked
import LoxLexer.Proofs.Scan.Closing
import LoxLexer.Proofs.Scan.Faults
import LoxLexer.Proofs.Scan.LineEnd
import LoxLexer.Proofs.Scan.LongestMatch
import LoxLexer.Proofs.Scan.Numbers
import LoxLexer.Proofs.Scan.Partition
import LoxLexer.Proofs.Scan.Printed
import LoxLexer.Proofs.Scan.Restart
import LoxLexer.Proofs.Scan.Returns
import LoxLexer.Proofs.Scan.Settled
import LoxLexer.Proofs.Scan.Spaced
import LoxLexer.Proofs.Scan.StringBody
import LoxLexer.Proofs.Session.SinceReset
import LoxLexer.Proofs.Text.Lines
import LoxLexer.Reader
import LoxLexer.Session
import LoxLexer.Text.LineEnding
import LoxLexer.Text.Slice
import LoxLexer.Token.Shift
