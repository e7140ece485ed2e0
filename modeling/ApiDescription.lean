import ApiDescription.CommandLine.Arguments
import ApiDescription.CommandLine.Filter
import ApiDescription.CommandLine.Pattern
import ApiDescription.CommandLine.Run
import ApiDescription.Decimal.Double
import ApiDescription.Decimal.Literal
import ApiDescription.Decimal.Nearest
import ApiDescription.Decimal.Shortest
import ApiDescription.Definition.Basic
import ApiDescription.Definition.Reading
import ApiDescription.Document.Assembly
import ApiDescription.Document.Builder
import ApiDescription.Document.Event
import ApiDescription.Document.Info
import ApiDescription.Document.Operation
import ApiDescription.Document.Security
import ApiDescription.Document.Server
import ApiDescription.Endpoint.Basic
import ApiDescription.Endpoint.Reading
import ApiDescription.Endpoint.Written
import ApiDescription.Entries
import ApiDescription.Files.Access
import ApiDescription.Files.Name
import ApiDescription.Files.Store
import ApiDescription.Generate
import ApiDescription.Json.Number
import ApiDescription.Json.Printer
import ApiDescription.Json.Reader
import ApiDescription.Json.Value
import ApiDescription.Path.Tags
import ApiDescription.Path.Template
import ApiDescription.Proofs.Document.Calls
import ApiDescription.Proofs.Document.Embedded
import ApiDescription.Proofs.Document.Isolation
import ApiDescription.Proofs.Document.Outline
import ApiDescription.Proofs.Document.PathParameters
import ApiDescription.Proofs.Document.Paths
import ApiDescription.Proofs.Document.Progress
import ApiDescription.Proofs.Document.References
import ApiDescription.Proofs.Endpoint.RoundTrip
import ApiDescription.Proofs.Entries
import ApiDescription.Proofs.Json
import ApiDescription.Proofs.Path.Pieces
import ApiDescription.Proofs.Path.Reading
import ApiDescription.Proofs.Path.Settled
import ApiDescription.Proofs.Path.Tags
import ApiDescription.Proofs.Reading.Node
import ApiDescription.Proofs.Reading.Record
import ApiDescription.Proofs.Schema.Dialect
import ApiDescription.Proofs.Schema.Induction
import ApiDescription.Proofs.Schema.RoundTrip
import ApiDescription.Reading.Fault
import ApiDescription.Reading.Node
import ApiDescription.Reading.Parts
import ApiDescription.Reading.Record
import ApiDescription.Schema.Basic
import ApiDescription.Schema.Export
import ApiDescription.Schema.Modifier
import ApiDescription.Schema.Reading
import ApiDescription.Schema.Written
import ApiDescription.Text.Alphanumeric
import ApiDescription.Text.Blank
import ApiDescription.Text.Printable
import ApiDescription.Text.Quoted
import ApiDescription.Text.Split
import ApiDescription.Yaml.Anchor
import ApiDescription.Yaml.Character
import ApiDescription.Yaml.Cursor
import ApiDescription.Yaml.Plain
import ApiDescription.Yaml.Printer
import ApiDescription.Yaml.Property
import ApiDescription.Yaml.Reader
import ApiDescription.Yaml.Scalar
import ApiDescription.Yaml.Style
import ApiDescription.Yaml.Token
import ApiDescription.Yaml.Tree
import ApiDescription.Main
import ApiDescription.Proofs.Document.FrontEnds
import ApiDescription.Proofs.Document.Regrouping
import ApiDescription.Proofs.Document.Tally
import ApiDescription.Proofs.Document.PathKeys
import ApiDescription.Proofs.Document.Root
import ApiDescription.Proofs.Document.SecuritySchemes
import ApiDescription.Proofs.Document.Metadata
import ApiDescription.Proofs.Schema.Context
import ApiDescription.Proofs.Schema.Refinement
import ApiDescription.Proofs.Schema.Layers
import ApiDescription.Proofs.Schema.Place
import ApiDescription.Proofs.Schema.Properties
import ApiDescription.Proofs.Schema.Ranges
import ApiDescription.Proofs.Schema.Agreement
import ApiDescription.Proofs.Schema.Idempotence
import ApiDescription.Proofs.Schema.Nullable
import ApiDescription.Proofs.Schema.TypeNames
import ApiDescription.Proofs.Schema.Optionality
import ApiDescription.Proofs.Schema.Shaping
import ApiDescription.Proofs.Schema.Facet
import ApiDescription.Proofs.Schema.Constraints
import ApiDescription.Proofs.Schema.Omission
import ApiDescription.Proofs.Endpoint.Resolution
import ApiDescription.Proofs.Endpoint.Declared
import ApiDescription.Proofs.Endpoint.Responses
import ApiDescription.Proofs.Reading.Result
import ApiDescription.Proofs.Reading.Wording
import ApiDescription.Proofs.Schema.Node
import ApiDescription.Proofs.Schema.Wording
import ApiDescription.Proofs.Endpoint.Wording
import ApiDescription.Proofs.Text.Split
import ApiDescription.Proofs.Files.Name
import ApiDescription.Proofs.Files.Store
import ApiDescription.Proofs.Generate
