import RecordQuery.Main
import RecordQuery.Proofs.Evaluation.Strict
import RecordQuery.Proofs.Grammar.Building
import RecordQuery.Proofs.Lexing.Soundness
import RecordQuery.Proofs.Lexing.Spacing
import RecordQuery.Proofs.Filtering.Policies
import RecordQuery.Proofs.Evaluation.Matching
import RecordQuery.Proofs.Evaluation.Printing
import RecordQuery.Proofs.Filtering.Modes
import RecordQuery.Proofs.Grammar.Depth
import RecordQuery.Proofs.Grammar.Placing
import RecordQuery.Proofs.Compiling.Tree
import RecordQuery.Proofs.Lexing.Enclosing
import RecordQuery.Proofs.Compiling.Composition
import RecordQuery.Proofs.Compiling.Defects
import RecordQuery.Proofs.Grammar.Settling
import RecordQuery.Proofs.Lexing.Legality
import RecordQuery.Proofs.Compiling.Reaching
import RecordQuery.Proofs.Grammar.Fitting
import RecordQuery.Proofs.Compiling.Failing
import RecordQuery.Proofs.Evaluation.Order
import RecordQuery.Proofs.Evaluation.Shape
import RecordQuery.Proofs.Compiling.Shape
import RecordQuery.Proofs.Paths.Segments
import RecordQuery.Proofs.Paths.Brackets
import RecordQuery.Proofs.Paths.Fields
import RecordQuery.Proofs.Compiling.Fields
import RecordQuery.Proofs.Records.Distinct
import RecordQuery.Proofs.Records.RoundTrip
import RecordQuery.Proofs.Compiling.Height
import RecordQuery.Proofs.Evaluation.Reporting
import RecordQuery.Proofs.Compiling.Reporting
import RecordQuery.Proofs.Lexing.Failing
import RecordQuery.Proofs.Paths.Failing
import RecordQuery.Proofs.Compiling.Locating
import RecordQuery.Proofs.Compiling.Underlining
import RecordQuery.Proofs.Checking.Operations
import RecordQuery.Proofs.Checking.Reducing
import RecordQuery.Proofs.Checking.Paths
import RecordQuery.Proofs.Checking.Lexing
import RecordQuery.Proofs.Checking.Compiling
import RecordQuery.Proofs.Checking.Building
import RecordQuery.Proofs.Broadcasting.Items
import RecordQuery.Proofs.Broadcasting.Pipelines
import RecordQuery.Proofs.Broadcasting.Negation
import RecordQuery.Proofs.Broadcasting.Grouping
import RecordQuery.Proofs.Broadcasting.Quantifiers
import RecordQuery.Proofs.Evaluation.Consuming
import RecordQuery.Proofs.Records.TextKeys
import RecordQuery.Proofs.Paths.Branching
import RecordQuery.Proofs.Paths.Grammar
import RecordQuery.Proofs.Records.Inserting
import RecordQuery.Proofs.Records.Equality
import RecordQuery.Proofs.Evaluation.Comparing
import RecordQuery.Proofs.Compiling.BadPaths
import RecordQuery.Proofs.Numbers.Rounding
import RecordQuery.Proofs.Records.Transitivity
import RecordQuery.Proofs.Evaluation.ByValue
import RecordQuery.Proofs.Evaluation.Transitivity
import RecordQuery.Proofs.Evaluation.Replacing
import RecordQuery.Proofs.Evaluation.Unplaced
import RecordQuery.Proofs.Broadcasting.DoubleNegation
import RecordQuery.Proofs.Grammar.Counting
import RecordQuery.Proofs.Grammar.Refusing
import RecordQuery.Proofs.Lexing.Standing
import RecordQuery.Proofs.Numbers.Decimals
import RecordQuery.Proofs.Numbers.Numerals
import RecordQuery.Proofs.Paths.Displaying
import RecordQuery.Proofs.Paths.Indexing
import RecordQuery.Proofs.Numbers.Literals
import RecordQuery.Proofs.Grammar.Operands
