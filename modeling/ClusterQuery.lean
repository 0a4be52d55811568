import ClusterQuery.Alias
import ClusterQuery.Catalog.Basic
import ClusterQuery.Catalog.Closeness
import ClusterQuery.Catalog.Resource
import ClusterQuery.Cluster.Discovery
import ClusterQuery.Cluster.Failure
import ClusterQuery.Cluster.Listing
import ClusterQuery.Cluster.Metadata
import ClusterQuery.Cluster.Server
import ClusterQuery.Cluster.Session
import ClusterQuery.CommandLine.Arguments
import ClusterQuery.CommandLine.Basic
import ClusterQuery.CommandLine.Error
import ClusterQuery.CommandLine.Options
import ClusterQuery.Dictionary
import ClusterQuery.Json.Basic
import ClusterQuery.Json.Printer
import ClusterQuery.Json.Reader
import ClusterQuery.Json.Typed
import ClusterQuery.Kubeconfig.Basic
import ClusterQuery.Kubeconfig.Reader
import ClusterQuery.Main
import ClusterQuery.Number.Binary64
import ClusterQuery.Number.Bounded
import ClusterQuery.Number.Decimal
import ClusterQuery.Path.Basic
import ClusterQuery.Path.Brackets
import ClusterQuery.Path.Extract
import ClusterQuery.Path.Parser
import ClusterQuery.Path.Printer
import ClusterQuery.Pattern.Basic
import ClusterQuery.Pattern.CaseFolding
import ClusterQuery.Pattern.CharSet
import ClusterQuery.Pattern.Escape
import ClusterQuery.Pattern.Property
import ClusterQuery.Pattern.Reader
import ClusterQuery.Pattern.Regex
import ClusterQuery.Pattern.Tree
import ClusterQuery.Pattern.Wildcard
import ClusterQuery.Predicate.Basic
import ClusterQuery.Predicate.Error
import ClusterQuery.Predicate.Eval
import ClusterQuery.Predicate.Expr
import ClusterQuery.Predicate.Lexer
import ClusterQuery.Predicate.Parser
import ClusterQuery.Predicate.Token
import ClusterQuery.Projection.Builtin
import ClusterQuery.Projection.Table
import ClusterQuery.Proofs.Number.Digits
import ClusterQuery.Proofs.Path.Printing
import ClusterQuery.Proofs.Path.Reading
import ClusterQuery.Proofs.Query.Canonical
import ClusterQuery.Proofs.Query.Clauses
import ClusterQuery.Proofs.Query.Fields
import ClusterQuery.Proofs.Query.Items
import ClusterQuery.Proofs.Query.Lists
import ClusterQuery.Proofs.Query.Pipeline
import ClusterQuery.Proofs.Query.Printing
import ClusterQuery.Proofs.Query.Reading
import ClusterQuery.Proofs.Query.RoundTrip
import ClusterQuery.Proofs.Query.Sections
import ClusterQuery.Proofs.Query.Sort
import ClusterQuery.Proofs.Query.Source
import ClusterQuery.Proofs.Query.Waves
import ClusterQuery.Proofs.Query.WellFormed
import ClusterQuery.Proofs.Query.Words
import ClusterQuery.Proofs.Result
import ClusterQuery.Proofs.Text.Characters
import ClusterQuery.Proofs.Text.Nesting
import ClusterQuery.Proofs.Text.Split
import ClusterQuery.Proofs.Text.TopLevel
import ClusterQuery.Proofs.Text.Trim
import ClusterQuery.Proofs.Value.SortKey
import ClusterQuery.Query.Basic
import ClusterQuery.Query.Batch
import ClusterQuery.Query.Bindings
import ClusterQuery.Query.Clauses
import ClusterQuery.Query.Engine
import ClusterQuery.Query.Error
import ClusterQuery.Query.Field
import ClusterQuery.Query.Parser
import ClusterQuery.Query.Sort
import ClusterQuery.Query.Words
import ClusterQuery.Reducer
import ClusterQuery.Report.Basic
import ClusterQuery.Report.Table
import ClusterQuery.Settings
import ClusterQuery.Text.Ascii
import ClusterQuery.Text.Blank
import ClusterQuery.Text.ByteLength
import ClusterQuery.Text.Category
import ClusterQuery.Text.Letter
import ClusterQuery.Text.Quoted
import ClusterQuery.Text.Script
import ClusterQuery.Text.Split
import ClusterQuery.Time.Calendar
import ClusterQuery.Time.Instant
import ClusterQuery.Time.Reader
import ClusterQuery.Value.Basic
import ClusterQuery.Value.Order
import ClusterQuery.Value.Scalar
import ClusterQuery.Yaml.Node
import ClusterQuery.Yaml.Printer
import ClusterQuery.Yaml.Scalar
import ClusterQuery.Yaml.Token
import ClusterQuery.Proofs.Predicate.Depth
import ClusterQuery.Proofs.Predicate.Fragments
import ClusterQuery.Proofs.Query.Condition
import ClusterQuery.Proofs.Query.StableOrder
import ClusterQuery.Proofs.Path.Nodes
import ClusterQuery.Proofs.Query.Cancellation
import ClusterQuery.Proofs.Predicate.Readers
import ClusterQuery.Proofs.Predicate.Grammar
import ClusterQuery.Proofs.Predicate.Soundness
import ClusterQuery.Proofs.Predicate.Completeness
import ClusterQuery.Proofs.Predicate.Identifiers
import ClusterQuery.Proofs.Number.Decimal
import ClusterQuery.Proofs.Number.Rounding
import ClusterQuery.Proofs.Path.RoundTrip
import ClusterQuery.Proofs.Query.Binding
import ClusterQuery.Proofs.Report.Names
import ClusterQuery.Proofs.Value.Agreement
import ClusterQuery.Proofs.Query.Dependence
import ClusterQuery.Proofs.Cluster.Recording
import ClusterQuery.Proofs.Cluster.Transparency
import ClusterQuery.Proofs.Query.MetadataMap
import ClusterQuery.Proofs.Query.MetadataEntry
import ClusterQuery.Proofs.Query.BareField
import ClusterQuery.Proofs.Query.OrderByTitle
import ClusterQuery.Proofs.Value.Equality
import ClusterQuery.Proofs.Predicate.Membership
import ClusterQuery.Proofs.Predicate.Tiling
import ClusterQuery.Proofs.Pattern.Wildcard
import ClusterQuery.Proofs.Predicate.Quantifier
import ClusterQuery.Proofs.Query.Segmentation
import ClusterQuery.Proofs.Number.RoundTrip
import ClusterQuery.Proofs.Time.Timestamp
import ClusterQuery.Proofs.Time.Clock
import ClusterQuery.Proofs.Value.Display
import ClusterQuery.Proofs.Predicate.Words
import ClusterQuery.Proofs.Predicate.Literal
import ClusterQuery.Proofs.Query.Projection
import ClusterQuery.Proofs.Predicate.Comparison
import ClusterQuery.Proofs.Value.Sum
import ClusterQuery.Proofs.Value.Quantity
import ClusterQuery.Proofs.Query.QuotedKey
import ClusterQuery.Proofs.Query.NameLanguage
import ClusterQuery.Proofs.Cluster.Discovery
import ClusterQuery.Proofs.Query.PathBase
import ClusterQuery.Proofs.Query.Rebinding
import ClusterQuery.Proofs.Query.Resolution
import ClusterQuery.Proofs.Query.KeyOrder
import ClusterQuery.Proofs.Json.Printing
import ClusterQuery.Proofs.Report.Table
import ClusterQuery.Proofs.Report.Lines
import ClusterQuery.Proofs.Path.Position
import ClusterQuery.Proofs.Text.Matched
import ClusterQuery.Proofs.Text.Cuts
