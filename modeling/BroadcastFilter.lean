import BroadcastFilter.Unicode.CodeSet
import BroadcastFilter.Unicode.Folding
import BroadcastFilter.Unicode.Property
import BroadcastFilter.Regex.Expr
import BroadcastFilter.Regex.Reader
import BroadcastFilter.Regex.Engine
import BroadcastFilter.Binary64
import BroadcastFilter.Binary64.Shortest
import BroadcastFilter.Binary64.Style
import BroadcastFilter.Text.Quoted
import BroadcastFilter.Dictionary
import BroadcastFilter.Json.Document
import BroadcastFilter.Json.Printer
import BroadcastFilter.Decode.Error
import BroadcastFilter.Decode.Json
import BroadcastFilter.Decode.Schema
import BroadcastFilter.Action
import BroadcastFilter.Chain
import BroadcastFilter.Condition
import BroadcastFilter.Filter
import BroadcastFilter.Config
import BroadcastFilter.Config.Schema
import BroadcastFilter.Config.Written
import BroadcastFilter.Message.Schema
import BroadcastFilter.Message.Written
import BroadcastFilter.Program
import BroadcastFilter.Command
import BroadcastFilter.Yaml.Cursor
import BroadcastFilter.Yaml.Token
import BroadcastFilter.Yaml.Token.Block
import BroadcastFilter.Yaml.Token.Plain
import BroadcastFilter.Yaml.Token.Quoted
import BroadcastFilter.Yaml.Token.Property
import BroadcastFilter.Yaml.Token.Stream
import BroadcastFilter.Yaml.Node
import BroadcastFilter.Yaml.Node.OfTokens
import BroadcastFilter.Main
import BroadcastFilter.Proofs.WellFormed
import BroadcastFilter.Proofs.Ready
import BroadcastFilter.Proofs.Decision
import BroadcastFilter.Proofs.Delivery
import BroadcastFilter.Proofs.Repair
import BroadcastFilter.Proofs.Explanation
import BroadcastFilter.Proofs.Visibility
import BroadcastFilter.Proofs.Faults
import BroadcastFilter.Proofs.Record
import BroadcastFilter.Proofs.Grammar
import BroadcastFilter.Proofs.Canonical
import BroadcastFilter.Proofs.MessageGrammar
import BroadcastFilter.Proofs.RoundTrip
import BroadcastFilter.Proofs.Refusal
import BroadcastFilter.Proofs.Append
import BroadcastFilter.Proofs.Arguments
import BroadcastFilter.Proofs.Evaluation
import BroadcastFilter.Proofs.Yaml.Character
import BroadcastFilter.Proofs.Yaml.Plain
import BroadcastFilter.Proofs.Yaml.Quoted
import BroadcastFilter.Proofs.Yaml.Block
import BroadcastFilter.Proofs.Yaml.Lexer
import BroadcastFilter.Proofs.Yaml.Scalar
import BroadcastFilter.Proofs.Yaml.Printed
import BroadcastFilter.Proofs.Yaml.Tokens
import BroadcastFilter.Proofs.Yaml.Printable
import BroadcastFilter.Proofs.Yaml.Nodes
import BroadcastFilter.Proofs.Yaml.Decoded
import BroadcastFilter.Proofs.Yaml.RoundTrip
import BroadcastFilter.Proofs.Precedence
import BroadcastFilter.Proofs.Verdict
import BroadcastFilter.Proofs.DecisionLog
import BroadcastFilter.Proofs.LoadingLog
import BroadcastFilter.Proofs.Readable
import BroadcastFilter.Proofs.TraceText
import BroadcastFilter.Proofs.FaultText
import BroadcastFilter.Proofs.ConditionText
import BroadcastFilter.Proofs.Restated
import BroadcastFilter.Proofs.Leniency
import BroadcastFilter.Proofs.StrictCheck
import BroadcastFilter.Proofs.Outcomes
