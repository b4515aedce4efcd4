import DialectConversion.Main
import DialectConversion.Proofs.Lowering.Clauses
import DialectConversion.Proofs.Conversion.Findings
import DialectConversion.Proofs.Rendering.Respelling
import DialectConversion.Proofs.Rendering.Spelling
import DialectConversion.Proofs.Conversion.Frame
import DialectConversion.Proofs.Conversion.EmptyRegistry
import DialectConversion.Proofs.Conversion.Delegation
import DialectConversion.Proofs.Conversion.DepthLimit
import DialectConversion.Proofs.Conversion.KeptOver
import DialectConversion.Proofs.Conversion.Content
import DialectConversion.Proofs.Conversion.Concatenation
import DialectConversion.Proofs.Json.Reports
import DialectConversion.Proofs.Cli.Batch
import DialectConversion.Proofs.Conversion.Rebuilding
import DialectConversion.Proofs.Text.UpperCase
import DialectConversion.Proofs.Conversion.AggregateNames
import DialectConversion.Proofs.Name.Pieces
import DialectConversion.Proofs.Name.Written
import DialectConversion.Proofs.Name.Cuts
import DialectConversion.Proofs.Name.Losses
import DialectConversion.Proofs.Rendering.Names
import DialectConversion.Proofs.Sql.ErrorKinds
import DialectConversion.Proofs.Conversion.Registration
import DialectConversion.Proofs.Text.Joined
import DialectConversion.Proofs.Tree.Search
import DialectConversion.Proofs.Tree.Outline
import DialectConversion.Proofs.Rendering.Quoting
