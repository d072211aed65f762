import EventRules.Assistant.Channel
import EventRules.Assistant.Tools
import EventRules.Catalog.Archive
import EventRules.Catalog.Config
import EventRules.Catalog.Manifest
import EventRules.Catalog.Opening
import EventRules.Catalog.Store
import EventRules.CatalogKey
import EventRules.CommandLine.Commands
import EventRules.CommandLine.Flags
import EventRules.CommandLine.Help
import EventRules.CommandLine.Run
import EventRules.CommandLine.VariableFile
import EventRules.Console
import EventRules.Dictionary
import EventRules.Environments
import EventRules.Failure
import EventRules.Files.Path
import EventRules.Files.Tree
import EventRules.Http.RequestBody
import EventRules.Http.Response
import EventRules.Http.Server
import EventRules.Http.Target
import EventRules.Json.Reader
import EventRules.Json.Value
import EventRules.Json.Writer
import EventRules.Lru
import EventRules.Main
import EventRules.Markup.Charset
import EventRules.Markup.Fault
import EventRules.Markup.Name
import EventRules.Markup.Node
import EventRules.Markup.Reader
import EventRules.Markup.Scan
import EventRules.Markup.Writer
import EventRules.Metadata.Cached
import EventRules.Metadata.Source
import EventRules.Numeral.Decimal
import EventRules.Numeral.Double
import EventRules.Numeral.Integer
import EventRules.Proofs.Batches
import EventRules.Proofs.Blanks
import EventRules.Proofs.Breaks
import EventRules.Proofs.Caching
import EventRules.Proofs.Casing
import EventRules.Proofs.Clauses
import EventRules.Proofs.Conditions
import EventRules.Proofs.Decoding
import EventRules.Proofs.Dictionaries
import EventRules.Proofs.Directories
import EventRules.Proofs.Distance
import EventRules.Proofs.Encodings
import EventRules.Proofs.Faults
import EventRules.Proofs.Finding
import EventRules.Proofs.Hiding
import EventRules.Proofs.History
import EventRules.Proofs.Importing
import EventRules.Proofs.Indexing
import EventRules.Proofs.Isolation
import EventRules.Proofs.Keys
import EventRules.Proofs.KeptLists
import EventRules.Proofs.Layout
import EventRules.Proofs.LineBreaks
import EventRules.Proofs.Listings
import EventRules.Proofs.Loading
import EventRules.Proofs.Nesting
import EventRules.Proofs.Opening
import EventRules.Proofs.Operators
import EventRules.Proofs.Ownership
import EventRules.Proofs.PartialImports
import EventRules.Proofs.Paths
import EventRules.Proofs.Phrases
import EventRules.Proofs.Pieces
import EventRules.Proofs.Places
import EventRules.Proofs.Primary
import EventRules.Proofs.Protecting
import EventRules.Proofs.Provenance
import EventRules.Proofs.Questions
import EventRules.Proofs.Ranking
import EventRules.Proofs.Rating
import EventRules.Proofs.Reading
import EventRules.Proofs.Recency
import EventRules.Proofs.Restoring
import EventRules.Proofs.Roundtrip
import EventRules.Proofs.Scoping
import EventRules.Proofs.Sites
import EventRules.Proofs.Spelling
import EventRules.Proofs.Statuses
import EventRules.Proofs.Storing
import EventRules.Proofs.Strangers
import EventRules.Proofs.Stretches
import EventRules.Proofs.Subdirectories
import EventRules.Proofs.Tandem
import EventRules.Proofs.TemplateChoice
import EventRules.Proofs.Tidiness
import EventRules.Proofs.Tiers
import EventRules.Proofs.Tree
import EventRules.Proofs.Unwrapping
import EventRules.Proofs.Walks
import EventRules.Proofs.WholeWords
import EventRules.Rule.Comparison
import EventRules.Rule.Criteria
import EventRules.Rule.Decompiler
import EventRules.Rule.Element
import EventRules.Rule.Line
import EventRules.Rule.Lookup
import EventRules.Rule.Operand
import EventRules.Rule.Phrase
import EventRules.Rule.Variables
import EventRules.Service
import EventRules.Suggest
import EventRules.Template.Basic
import EventRules.Template.Cache
import EventRules.Text.Case
import EventRules.Text.Entity
import EventRules.Text.EntityTable
import EventRules.Text.Glyph
import EventRules.Text.Hexadecimal
import EventRules.Text.Printable
import EventRules.Text.Quoted
import EventRules.Text.Search
import EventRules.Text.Space
import EventRules.View
import EventRules.Yaml.Fault
import EventRules.Yaml.Meaning
import EventRules.Yaml.Node
import EventRules.Yaml.Reading
import EventRules.Yaml.Scalar
import EventRules.Yaml.Source
import EventRules.Yaml.Token
import EventRules.Yaml.Writer
