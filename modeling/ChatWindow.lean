import ChatWindow.Value
import ChatWindow.Value.Equal
import ChatWindow.Value.Display
import ChatWindow.Number.Fixed
import ChatWindow.Text.Kinds
import ChatWindow.Text.Search
import ChatWindow.Text.Cells
import ChatWindow.Json.Printer
import ChatWindow.Json.Parser
import ChatWindow.Failure
import ChatWindow.Config
import ChatWindow.Message.Record
import ChatWindow.Window
import ChatWindow.Report
import ChatWindow.Run
import ChatWindow.Selection
import ChatWindow.Template.Named
import ChatWindow.Tokenizer.Function
import ChatWindow.Tokenizer.BytePair
import ChatWindow.Session
import ChatWindow.Image
import ChatWindow.Model
import ChatWindow.Log.Config
import ChatWindow.Prompt
import ChatWindow.History
import ChatWindow.Log.Logger
import ChatWindow.Report.Table
import ChatWindow.Toml.Text
import ChatWindow.Toml.Scalar
import ChatWindow.Toml.Table
import ChatWindow.Toml
import ChatWindow.Yaml.Text
import ChatWindow.Yaml.Token
import ChatWindow.Yaml.Node
import ChatWindow.Yaml.Scalar
import ChatWindow.Yaml
import ChatWindow.Settings
import ChatWindow.Proofs.Longest
import ChatWindow.Proofs.Rounds
import ChatWindow.Proofs.Build
import ChatWindow.Proofs.Fitting
import ChatWindow.Proofs.Reselection
import ChatWindow.Proofs.Budget
import ChatWindow.Proofs.Naming
import ChatWindow.Proofs.Widening
import ChatWindow.Proofs.Markers
import ChatWindow.Proofs.Alike
import ChatWindow.Proofs.Sizing
import ChatWindow.Proofs.Utilization
import ChatWindow.Proofs.SystemFirst
import ChatWindow.Proofs.KeptWhole
import ChatWindow.Proofs.Alignment
import ChatWindow.Proofs.LeastWindow
import ChatWindow.Proofs.Growth
import ChatWindow.Proofs.CallerWindow
import ChatWindow.Proofs.Ledger
import ChatWindow.Proofs.Questions
import ChatWindow.Proofs.Json.Number
import ChatWindow.Proofs.Json.Reading
import ChatWindow.Proofs.Json.Writing
import ChatWindow.Proofs.Base64
import ChatWindow.Proofs.Record
import ChatWindow.Proofs.Effects
import ChatWindow.Proofs.Stages
import ChatWindow.Proofs.Registry
import ChatWindow.Proofs.Refusal
import ChatWindow.Proofs.Reporting
import ChatWindow.Proofs.GivenCost
import ChatWindow.Proofs.Balance
import ChatWindow.Proofs.Honesty
import ChatWindow.Proofs.Marked
import ChatWindow.Proofs.Pieces
import ChatWindow.Proofs.Substitution
import ChatWindow.Proofs.TagFormat
import ChatWindow.Proofs.Delivery
import ChatWindow.Proofs.References
import ChatWindow.Proofs.Json.Decoding
import ChatWindow.Proofs.Rereading
import ChatWindow.Proofs.Failing
import ChatWindow.Proofs.ToolArguments
import ChatWindow.Proofs.Surplus
import ChatWindow.Proofs.Json.Embedding
import ChatWindow.Proofs.Enclosure
import ChatWindow.Proofs.Markup
import ChatWindow.Proofs.LogLines
import ChatWindow.Proofs.Transcript
