import Assay.CommandLine.Program
import Assay.Proofs.Chain.Argument
import Assay.Proofs.Chain.Call
import Assay.Proofs.Chain.IntegerLiteral
import Assay.Proofs.Chain.Numeral
import Assay.Proofs.Chain.Piece
import Assay.Proofs.Chain.Pieces
import Assay.Proofs.Chain.Reading
import Assay.Proofs.Chain.Rendering
import Assay.Proofs.Chain.Separation
import Assay.Proofs.Draw.AcceptedBounds
import Assay.Proofs.Draw.Bounds
import Assay.Proofs.Draw.Conformance
import Assay.Proofs.Draw.Equality
import Assay.Proofs.Draw.Evaluation
import Assay.Proofs.Draw.Exhaustion
import Assay.Proofs.Draw.Filling
import Assay.Proofs.Draw.FirstOccurrences
import Assay.Proofs.Draw.FloatRange
import Assay.Proofs.Draw.FloatText
import Assay.Proofs.Draw.FourPlaces
import Assay.Proofs.Draw.IntegerRange
import Assay.Proofs.Draw.Limits
import Assay.Proofs.Draw.Preview
import Assay.Proofs.Draw.Printed
import Assay.Proofs.Draw.Results
import Assay.Proofs.Draw.Tokens
import Assay.Proofs.Draw.Uniformity
import Assay.Proofs.Draw.Values
import Assay.Proofs.Files.Tree
import Assay.Proofs.Judge.Acceptance
import Assay.Proofs.Judge.Comparison
import Assay.Proofs.Judge.Configuration
import Assay.Proofs.Judge.Difference
import Assay.Proofs.Judge.Flight
import Assay.Proofs.Judge.Generation
import Assay.Proofs.Judge.Resolution
import Assay.Proofs.Judge.Starts
import Assay.Proofs.Judge.Submission
import Assay.Proofs.Judge.Verdict
import Assay.Proofs.Number.Integer
import Assay.Proofs.Number.Nearest
import Assay.Proofs.Number.Order
import Assay.Proofs.Number.Rounding
import Assay.Proofs.Number.Shortest
import Assay.Proofs.Random.Scale
import Assay.Proofs.Random.Shares
import Assay.Proofs.Random.Source
import Assay.Proofs.Random.Uniform
import Assay.Proofs.Result
import Assay.Proofs.Runner.Classification
import Assay.Proofs.Runner.Execution
import Assay.Proofs.Runner.Registry
import Assay.Proofs.Runner.Start
import Assay.Proofs.Runner.StdinCursor
import Assay.Proofs.Runner.WorkDirectory
import Assay.Proofs.Sandbox.Identity
import Assay.Proofs.Service.Agreement
import Assay.Proofs.Service.Reply
import Assay.Proofs.Service.Starts
import Assay.Proofs.Text.Blank
import Assay.Proofs.Text.Joined
import Assay.Proofs.Text.Utf8
import Assay.Runner.WorkDirectory
import Assay.Sandbox.Host
