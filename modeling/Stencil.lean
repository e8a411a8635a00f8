import Stencil.Number.Exact
import Stencil.Text.Blank
import Stencil.Text.Case
import Stencil.Text.Lines
import Stencil.Text.Quoted
import Stencil.Text.Search
import Stencil.Text.Word
import Stencil.Value.Equality
import Stencil.Value.Written
import Stencil.Token.Scan
import Stencil.Node.Parse
import Stencil.Function.Builtin
import Stencil.Function.Sample
import Stencil.Report
import Stencil.Session
import Stencil.Model.Schema
import Stencil.Caret
import Stencil.Text.Utf8
import Stencil.Json
import Stencil.Yaml.Folding
import Stencil.Yaml.Tree
import Stencil.Yaml.Read
import Stencil.CommandLine.Command
import Stencil.CommandLine.Files
import Stencil.CommandLine.Refusal
import Stencil.CommandLine.Values
import Stencil.CommandLine.Run
import Stencil.CommandLine.YamlFile
import Stencil.Main
import Stencil.Proofs.Node.Moved
import Stencil.Proofs.Parser.Agreement
import Stencil.Proofs.Parser.Laziness
import Stencil.Proofs.Text.Character
import Stencil.Proofs.Token.Literal
import Stencil.Proofs.Token.Spelling
import Stencil.Proofs.Evaluation.Shape
import Stencil.Proofs.Grammar.Acceptance
import Stencil.Proofs.Grammar.WellFormed
import Stencil.Proofs.Printing.Expression
import Stencil.Proofs.Printing.Line
import Stencil.Proofs.Printing.Literal
import Stencil.Proofs.Printing.Normalization
import Stencil.Proofs.Position.Behind
import Stencil.Proofs.Token.Tiling
import Stencil.Proofs.Evaluation.Desugaring
import Stencil.Proofs.Text.Line
import Stencil.Proofs.Culprit.Blame
import Stencil.Proofs.Culprit.Caret
import Stencil.Proofs.Culprit.Location
import Stencil.Proofs.Concatenation.Seam
import Stencil.Proofs.Token.Moved
import Stencil.Proofs.Concatenation.Scanning
import Stencil.Proofs.Parser.Bound
import Stencil.Proofs.Parser.Moved
import Stencil.Proofs.Concatenation.Parsing
import Stencil.Proofs.Concatenation.Rendering
import Stencil.Proofs.Concatenation.Text
import Stencil.Proofs.Concatenation.OpenHole
import Stencil.Proofs.CommandLine.Commands
import Stencil.Proofs.Evaluation.Names
import Stencil.Proofs.Evaluation.Pipeline
import Stencil.Proofs.Parser.Fallible
import Stencil.Proofs.Function.Additions
import Stencil.Proofs.Session.Steps
import Stencil.Proofs.Session.Registries
import Stencil.Proofs.Session.Agreement
import Stencil.Proofs.Session.Iterators
import Stencil.Proofs.Token.Order
import Stencil.Proofs.Grammar.Landmarks
import Stencil.Proofs.Grammar.Fidelity
import Stencil.Proofs.Text.LineEnds
import Stencil.Proofs.Printing.Verbatim
import Stencil.Proofs.Parser.Online
import Stencil.Proofs.Grammar.Viability
import Stencil.Proofs.Grammar.Refusal
import Stencil.Proofs.Text.Pieces
import Stencil.Proofs.Function.Splitting
import Stencil.Proofs.Evaluation.Splitting
import Stencil.Proofs.Function.Objections
import Stencil.Proofs.Source.Table
import Stencil.Proofs.Entries
import Stencil.Proofs.Model.Members
import Stencil.Proofs.Model.Hiding
import Stencil.Proofs.Model.Inheritance
import Stencil.Proofs.Text.Folding
import Stencil.Proofs.Model.Exposure
import Stencil.Proofs.CommandLine.Settings
import Stencil.Proofs.CommandLine.DataFile
import Stencil.Proofs.Spacing
