import Subgraph.CommandLine
import Subgraph.CommandLine.Help
import Subgraph.Decimal.Double
import Subgraph.Decimal.Shortest
import Subgraph.Federated.Declaration
import Subgraph.Federated.Error
import Subgraph.Federated.LineWriter
import Subgraph.Federated.Sdl
import Subgraph.Federated.Service
import Subgraph.Forward
import Subgraph.Http.DomainName
import Subgraph.Http.DomainName.Table
import Subgraph.Http.Host
import Subgraph.Http.Login
import Subgraph.Http.Origin
import Subgraph.Http.Status
import Subgraph.Http.Url
import Subgraph.Introspection.Conversion
import Subgraph.Introspection.Query
import Subgraph.Introspection.Reader
import Subgraph.Introspection.Record
import Subgraph.Introspection.Schema
import Subgraph.Json.Basic
import Subgraph.Json.Printer
import Subgraph.Json.Reader
import Subgraph.Json.Record
import Subgraph.Json.Written
import Subgraph.Language.BlockString
import Subgraph.Language.Document
import Subgraph.Language.Document.Printer
import Subgraph.Language.Document.Reader
import Subgraph.Language.Name
import Subgraph.Language.Reading
import Subgraph.Language.Token
import Subgraph.Language.Token.Lexer
import Subgraph.Language.Value
import Subgraph.Language.Value.Printer
import Subgraph.Message.Request
import Subgraph.Message.Response
import Subgraph.Options.Basic
import Subgraph.Options.Error
import Subgraph.Options.Reader
import Subgraph.Options.Synthesis
import Subgraph.Options.TypeOptions
import Subgraph.OrderedMap
import Subgraph.Proofs.Conversion
import Subgraph.Proofs.Federated.Alike
import Subgraph.Proofs.Federated.Declaration
import Subgraph.Proofs.Federated.Extraction
import Subgraph.Proofs.Federated.Fields
import Subgraph.Proofs.Federated.Introspected
import Subgraph.Proofs.Federated.OptionText
import Subgraph.Proofs.Federated.Readable
import Subgraph.Proofs.Federated.Registration
import Subgraph.Proofs.Federated.RoundTrip
import Subgraph.Proofs.Federated.Stability
import Subgraph.Proofs.Federated.Text
import Subgraph.Proofs.Forward
import Subgraph.Proofs.Introspection.Answer
import Subgraph.Proofs.Introspection.Encoding
import Subgraph.Proofs.Introspection.Literal
import Subgraph.Proofs.Introspection.Roots
import Subgraph.Proofs.Introspection.RoundTrip
import Subgraph.Proofs.Introspection.Shown
import Subgraph.Proofs.Introspection.Wrapper
import Subgraph.Proofs.Json.Record
import Subgraph.Proofs.Json.Text
import Subgraph.Proofs.Language.Comment
import Subgraph.Proofs.Language.Directive
import Subgraph.Proofs.Language.Given
import Subgraph.Proofs.Language.Locality
import Subgraph.Proofs.Language.Name
import Subgraph.Proofs.Language.Reading
import Subgraph.Proofs.Language.Spelling
import Subgraph.Proofs.Language.Token
import Subgraph.Proofs.Language.Value
import Subgraph.Proofs.Options.Gap
import Subgraph.Proofs.Options.Synthesis
import Subgraph.Proofs.OrderedMap
import Subgraph.Proofs.ResolverTable
import Subgraph.Proofs.Schema.Default
import Subgraph.Proofs.Schema.Extended
import Subgraph.Proofs.Schema.Key
import Subgraph.Proofs.Schema.Parts
import Subgraph.Resolver.Basic
import Subgraph.Resolver.Error
import Subgraph.Resolver.Table
import Subgraph.Schema.Basic
import Subgraph.Schema.Build
import Subgraph.Schema.BuiltIn
import Subgraph.Schema.Key
import Subgraph.Text.Base64
import Subgraph.Text.Blank
import Subgraph.Text.CodePoint
import Subgraph.Text.CodePointTable
import Subgraph.Text.Direction
import Subgraph.Text.Direction.Table
import Subgraph.Text.Joining
import Subgraph.Text.Normalization
import Subgraph.Text.Normalization.Table
import Subgraph.Text.Percent
import Subgraph.Text.Printable
import Subgraph.Text.Punycode
import Subgraph.Text.Quoted
import Subgraph.Text.Split
import Subgraph.Text.Within
import Subgraph.Yaml.BlockScalar
import Subgraph.Yaml.Fault
import Subgraph.Yaml.FlowScalar
import Subgraph.Yaml.Layout
import Subgraph.Yaml.Mark
import Subgraph.Yaml.Node
import Subgraph.Yaml.Node.Reader
import Subgraph.Yaml.Reader
import Subgraph.Yaml.Scalar
import Subgraph.Yaml.Tag
import Subgraph.Yaml.Token
import Subgraph.Main
import Subgraph.Proofs.Options.Printed
import Subgraph.Proofs.Federated.Reach
import Subgraph.Proofs.Options.Named
import Subgraph.Proofs.Decimal.Shortest
import Subgraph.Proofs.Message
import Subgraph.Proofs.ResolverProxy
import Subgraph.Proofs.Schema.KeyChain
import Subgraph.Proofs.Schema.KeyCycle
import Subgraph.Proofs.Federated.RootTypes
import Subgraph.Proofs.Federated.Exchange
import Subgraph.Proofs.Introspection.Faults
import Subgraph.Proofs.Options.Configuration
import Subgraph.Proofs.Introspection.Asked
import Subgraph.Proofs.Introspection.Place
import Subgraph.Proofs.ResolverHistory
import Subgraph.Proofs.Options.Merge
import Subgraph.Proofs.Schema.KeySelection
import Subgraph.Proofs.Message.RoundTrip
import Subgraph.Proofs.Federated.LineWriter
import Subgraph.Proofs.Language.OneLine
import Subgraph.Proofs.Federated.Lines
