import IncompleteBeta.Binomial
import IncompleteBeta.Diagnostics.Session
import IncompleteBeta.Main
import IncompleteBeta.Proofs.Diagnostics.EntryPoint
import IncompleteBeta.Proofs.Diagnostics.Reports
import IncompleteBeta.Proofs.Binary64.Grid
import IncompleteBeta.Proofs.Binary64.Packing
import IncompleteBeta.Proofs.Binary64.Value
import IncompleteBeta.Proofs.Binary64.Rounding
import IncompleteBeta.Proofs.Binary64.Arithmetic
import IncompleteBeta.Proofs.Binary64.UnitInterval
import IncompleteBeta.Proofs.Tails
import IncompleteBeta.Proofs.Quantile
import IncompleteBeta.Proofs.Diagnostics.Eager
import IncompleteBeta.Proofs.Diagnostics.Record
import IncompleteBeta.Proofs.Decimal.Digits
import IncompleteBeta.Proofs.Json.Lexeme
import IncompleteBeta.Proofs.Json.Number
import IncompleteBeta.Proofs.Json.Reading
import IncompleteBeta.Proofs.Json.Records
import IncompleteBeta.Proofs.Binary64.Nearest
import IncompleteBeta.Proofs.Binary64.Fields
import IncompleteBeta.Proofs.Decimal.Nearest
import IncompleteBeta.Proofs.Decimal.Scaling
import IncompleteBeta.Proofs.Json.Rereading
import IncompleteBeta.Proofs.Json.Accepted
import IncompleteBeta.Proofs.Fixture
import IncompleteBeta.Proofs.Json.Values
import IncompleteBeta.Proofs.Text.Utf8
import IncompleteBeta.Proofs.Text.Displayed
import IncompleteBeta.Proofs.Json.OneLine
import IncompleteBeta.Proofs.Files.Tree
import IncompleteBeta.Proofs.Log.Entry
import IncompleteBeta.Log.Sink
import IncompleteBeta.Proofs.Log.Stream
import IncompleteBeta.Proofs.CommandLine.Selection
import IncompleteBeta.Proofs.Verification
import IncompleteBeta.Proofs.CommandLine.Reporting
import IncompleteBeta.Proofs.CommandLine.Verify
import IncompleteBeta.Proofs.Binary64.Symmetry
import IncompleteBeta.Proofs.Asked
import IncompleteBeta.Proofs.Complementary
import IncompleteBeta.Proofs.Arguments
import IncompleteBeta.Proofs.Causes
import IncompleteBeta.Proofs.Message
import IncompleteBeta.Proofs.Dispatch
import IncompleteBeta.Proofs.Reflection
import IncompleteBeta.Proofs.Json.NearestReading
import IncompleteBeta.Proofs.Report
import IncompleteBeta.Proofs.Binary64.Middle
import IncompleteBeta.Proofs.Search
import IncompleteBeta.Proofs.Flush
import IncompleteBeta.Proofs.Exchanged
import IncompleteBeta.Proofs.Words
import IncompleteBeta.Proofs.Bounds
import IncompleteBeta.Proofs.Time.Calendar
import IncompleteBeta.Proofs.Time.Timestamp
import IncompleteBeta.Proofs.Diagnostics.Lines
import IncompleteBeta.Proofs.Log.Numbering
import IncompleteBeta.Proofs.Binary64.Distance
import IncompleteBeta.Proofs.RelativeError
import IncompleteBeta.Proofs.Pairing
import IncompleteBeta.Proofs.ReportedErrors
import IncompleteBeta.Proofs.Loading
import IncompleteBeta.Proofs.Narrowing
import IncompleteBeta.Proofs.Binary64.Nonzero
import IncompleteBeta.Proofs.Divisors
import IncompleteBeta.Proofs.Fractions
import IncompleteBeta.Proofs.Json.AnyOrder
import IncompleteBeta.Proofs.Presentation
import IncompleteBeta.Proofs.Binary64.Logarithm
import IncompleteBeta.Proofs.Binary64.Overflow
import IncompleteBeta.Proofs.Binary64.Errors
import IncompleteBeta.Proofs.LogGamma
import IncompleteBeta.Proofs.Binary64.Ratios
import IncompleteBeta.Proofs.Binary64.Truncation
import IncompleteBeta.Proofs.RoundCap
