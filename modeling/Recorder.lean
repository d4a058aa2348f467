import Recorder.Accessibility.Label
import Recorder.Accessibility.Name
import Recorder.Accessibility.Role
import Recorder.Assertion
import Recorder.Code.Basic
import Recorder.Code.Frame
import Recorder.Code.Json
import Recorder.Code.Statement
import Recorder.Command.Action
import Recorder.Command.Arguments
import Recorder.Command.Failure
import Recorder.Command.Request
import Recorder.Command.Run
import Recorder.Config
import Recorder.Config.Yaml
import Recorder.Control
import Recorder.CssPath
import Recorder.Document.Attributes
import Recorder.Document.Basic
import Recorder.Document.Json
import Recorder.Document.Snapshot
import Recorder.Document.Tree
import Recorder.Error
import Recorder.Event.Basic
import Recorder.Event.Json
import Recorder.Event.Raw
import Recorder.Json.Basic
import Recorder.Json.Decode
import Recorder.Json.Numeral
import Recorder.Json.Printer
import Recorder.Json.Reader
import Recorder.Json.Token
import Recorder.Literal
import Recorder.Locator.Basic
import Recorder.Locator.Candidate
import Recorder.Locator.Json
import Recorder.Locator.Matching
import Recorder.Locator.Synthesis
import Recorder.Log
import Recorder.Main
import Recorder.Number.Basic
import Recorder.Number.Notation
import Recorder.Number.Read
import Recorder.Number.Shortest
import Recorder.Proofs.Accessibility.Hiding
import Recorder.Proofs.Assertion.Offer
import Recorder.Proofs.Assertion.Truth
import Recorder.Proofs.Assertion.Value
import Recorder.Proofs.Code.Binding
import Recorder.Proofs.Code.Framing
import Recorder.Proofs.Code.Locality
import Recorder.Proofs.Code.Lossless
import Recorder.Proofs.Code.Nesting
import Recorder.Proofs.Code.Reading
import Recorder.Proofs.Code.References
import Recorder.Proofs.Code.Rendering
import Recorder.Proofs.Command.Resolution
import Recorder.Proofs.Control
import Recorder.Proofs.CssPath.Choice
import Recorder.Proofs.CssPath.FullPath
import Recorder.Proofs.CssPath.Matching
import Recorder.Proofs.CssPath.Parts
import Recorder.Proofs.CssPath.Search
import Recorder.Proofs.Document.Descendants
import Recorder.Proofs.Document.Edits
import Recorder.Proofs.Document.Growth
import Recorder.Proofs.Document.Links
import Recorder.Proofs.Document.Order
import Recorder.Proofs.Document.Preorder
import Recorder.Proofs.Json.Decode
import Recorder.Proofs.Json.Literal
import Recorder.Proofs.Json.RoundTrip
import Recorder.Proofs.Json.Snapshot
import Recorder.Proofs.Literal
import Recorder.Proofs.Locator.Completeness
import Recorder.Proofs.Locator.Distinct
import Recorder.Proofs.Locator.Expression
import Recorder.Proofs.Locator.Narrowing
import Recorder.Proofs.Locator.OwnText
import Recorder.Proofs.Locator.Replay
import Recorder.Proofs.Locator.Synthesis
import Recorder.Proofs.Locator.WholeText
import Recorder.Proofs.Log.Clicks
import Recorder.Proofs.Log.Origin
import Recorder.Proofs.Log.Rules
import Recorder.Proofs.Log.Settled
import Recorder.Proofs.Log.Shift
import Recorder.Proofs.Log.TabStack
import Recorder.Proofs.Log.Typing
import Recorder.Proofs.Number.Exact
import Recorder.Proofs.Selector.Composition
import Recorder.Proofs.Selector.Condition
import Recorder.Proofs.Selector.Conjunction
import Recorder.Proofs.Selector.Group
import Recorder.Proofs.Selector.Identifier
import Recorder.Proofs.Selector.Places
import Recorder.Proofs.Selector.WellRead
import Recorder.Proofs.Session.Batch
import Recorder.Proofs.Session.Modes
import Recorder.Proofs.Story
import Recorder.Proofs.Story.Display
import Recorder.Proofs.Text.Case
import Recorder.Proofs.Text.Evaluation
import Recorder.Proofs.Text.Whitespace
import Recorder.Proofs.Text.Words
import Recorder.Selector.Basic
import Recorder.Selector.Match
import Recorder.Selector.Parser
import Recorder.Selector.Printer
import Recorder.Session
import Recorder.Story
import Recorder.Text.Alphabetic
import Recorder.Text.Basic
import Recorder.Text.Case
import Recorder.Text.Whitespace
import Recorder.Text.Word
import Recorder.Yaml.Layout
import Recorder.Yaml.Node
import Recorder.Yaml.Scalar
import Recorder.Yaml.Scalar.Block
import Recorder.Yaml.Scalar.Plain
import Recorder.Yaml.Scalar.Quoted
import Recorder.Yaml.Spot
import Recorder.Yaml.Tag
import Recorder.Yaml.Token
import Recorder.Yaml.Value
