import ParseKit.Main
import ParseKit.Plan.Build
import ParseKit.Proofs.Sequencing
import ParseKit.Proofs.Cleanup
import ParseKit.Proofs.Consumption
import ParseKit.Proofs.Conservation
import ParseKit.Proofs.Labels
import ParseKit.Proofs.Totality
import ParseKit.Proofs.Repetition.Recursion
import ParseKit.Proofs.Spelling.Independence
import ParseKit.Proofs.Arithmetic.Literal
import ParseKit.Proofs.Arithmetic.Conversion
import ParseKit.Proofs.Arithmetic.Tokens
import ParseKit.Proofs.Arithmetic.Reading
import ParseKit.Proofs.Arithmetic.Language
import ParseKit.Proofs.Arithmetic.Binary
import ParseKit.Proofs.Arithmetic.Longest
import ParseKit.Proofs.Repetition.Exhaustion
import ParseKit.Proofs.Arithmetic.Rejection
import ParseKit.Proofs.Arithmetic.Extension
import ParseKit.Proofs.Number.Division
import ParseKit.Proofs.Arithmetic.Calculation
import ParseKit.Proofs.Arithmetic.Evaluation
import ParseKit.Proofs.Arithmetic.Positional
import ParseKit.Proofs.Succession
import ParseKit.Proofs.Choice
import ParseKit.Proofs.Number.Amount
import ParseKit.Proofs.Value.Equality
import ParseKit.Proofs.Prefix
import ParseKit.Proofs.Binding
import ParseKit.Proofs.Skipping
import ParseKit.Proofs.Command.Evaluation
import ParseKit.Proofs.Command.Escapes
import ParseKit.Proofs.Command.Loading
import ParseKit.Proofs.Command.Matching
import ParseKit.Proofs.Command.Precedence
import ParseKit.Proofs.Storage.Growth
import ParseKit.Proofs.Logging.History
import ParseKit.Proofs.Number.Rounding
import ParseKit.Proofs.Number.Shortest
import ParseKit.Proofs.Number.Layout
import ParseKit.Proofs.Value.Printed
