import IndicatorScript.Files.Tree
import IndicatorScript.Indicator.Length
import IndicatorScript.Main
import IndicatorScript.Proofs.Expr.Printing
import IndicatorScript.Proofs.Expr.Reparsing
import IndicatorScript.Proofs.Statement.Reparsing
import IndicatorScript.Proofs.Expr.Prefix
import IndicatorScript.Proofs.Run.Prefix
import IndicatorScript.Proofs.Expr.Height
import IndicatorScript.Proofs.Statement.Height
import IndicatorScript.Proofs.Run.Classification
import IndicatorScript.Proofs.Run.Alignment
import IndicatorScript.Proofs.Run.Composition
import IndicatorScript.Proofs.Expr.Pointwise
import IndicatorScript.Proofs.Expr.Constant
import IndicatorScript.Proofs.Expr.Strictness
import IndicatorScript.Proofs.Expr.Parameters
import IndicatorScript.Proofs.Run.Names
import IndicatorScript.Proofs.Run.Deviation
import IndicatorScript.Proofs.Run.Hiding
import IndicatorScript.Proofs.Run.Failures
import IndicatorScript.Proofs.Token.Lines
import IndicatorScript.Proofs.Expr.Reports
import IndicatorScript.Proofs.Statement.Totality
import IndicatorScript.Proofs.Token.Joining
import IndicatorScript.Proofs.Token.Pieces
import IndicatorScript.Proofs.Expr.Placement
import IndicatorScript.Proofs.Statement.Joining
import IndicatorScript.Proofs.Indicator.Window
import IndicatorScript.Proofs.Indicator.Statistic
import IndicatorScript.Proofs.Indicator.Average
import IndicatorScript.Proofs.Indicator.Strength
import IndicatorScript.Proofs.Indicator.Defined
import IndicatorScript.Proofs.Indicator.Range
import IndicatorScript.Proofs.Indicator.Reflection
import IndicatorScript.Proofs.Indicator.Recurrence
import IndicatorScript.Proofs.Expr.Meaning
import IndicatorScript.Proofs.Run.Charting
import IndicatorScript.Proofs.Example.Chart
import IndicatorScript.Proofs.Decimal.Whole
import IndicatorScript.Proofs.Example.Outcome
import IndicatorScript.Proofs.Expr.Kind
import IndicatorScript.Proofs.Statement.Limit
import IndicatorScript.Proofs.Statement.Study
import IndicatorScript.Proofs.Statement.Comments
import IndicatorScript.Proofs.Token.Longest
import IndicatorScript.Proofs.Token.Rejection
import IndicatorScript.Proofs.Token.Spacing
import IndicatorScript.Proofs.Number.Undefined
import IndicatorScript.Proofs.Indicator.Delay
import IndicatorScript.Proofs.Expr.Abbreviation
import IndicatorScript.Proofs.Indicator.Extreme
import IndicatorScript.Proofs.Indicator.Units
import IndicatorScript.Proofs.Indicator.Nested
import IndicatorScript.Proofs.Indicator.Flat
import IndicatorScript.Proofs.Expr.Mentions
import IndicatorScript.Proofs.Run.Exchange
import IndicatorScript.Proofs.Run.Default
import IndicatorScript.Proofs.Run.Execution
import IndicatorScript.Proofs.Frame.Columns
import IndicatorScript.Proofs.Expr.Broadcast
import IndicatorScript.Proofs.Settings.Names
import IndicatorScript.Proofs.CommandLine.Stages
import IndicatorScript.Proofs.CommandLine.Exit
import IndicatorScript.Proofs.Csv.Regular
import IndicatorScript.Proofs.CommandLine.Export
import IndicatorScript.Proofs.Token.Position
import IndicatorScript.Proofs.Expr.Position
import IndicatorScript.Proofs.Statement.Position
