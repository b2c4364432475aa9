import OntoTypes.Address
import OntoTypes.Attempt
import OntoTypes.CommandLine
import OntoTypes.Console
import OntoTypes.Declaration.Comment
import OntoTypes.Declaration.Printer
import OntoTypes.Declaration.Type
import OntoTypes.Diagnostic
import OntoTypes.Error
import OntoTypes.Fact.Datatype
import OntoTypes.Fact.Literal
import OntoTypes.Fact.Store
import OntoTypes.Fact.Term
import OntoTypes.Fact.Topic
import OntoTypes.FilePath
import OntoTypes.FileTree
import OntoTypes.Generation
import OntoTypes.Hierarchy.Ancestry
import OntoTypes.Hierarchy.Assembly
import OntoTypes.Hierarchy.Build
import OntoTypes.Hierarchy.Change
import OntoTypes.Hierarchy.Operation
import OntoTypes.Hierarchy.Registry
import OntoTypes.Hierarchy.Shape
import OntoTypes.Json.Basic
import OntoTypes.Json.Display
import OntoTypes.Json.Encoding
import OntoTypes.Json.Parser
import OntoTypes.Keyed
import OntoTypes.LinkedData.Authority
import OntoTypes.LinkedData.Context
import OntoTypes.LinkedData.Document
import OntoTypes.LinkedData.Iri
import OntoTypes.LinkedData.Member
import OntoTypes.Markup.Basic
import OntoTypes.Markup.Shortcode
import OntoTypes.Markup.Style
import OntoTypes.Number.Binary64
import OntoTypes.Number.Decimal
import OntoTypes.Number.Quantity
import OntoTypes.Number.Shortest
import OntoTypes.Number.Written
import OntoTypes.Settings
import OntoTypes.Source
import OntoTypes.Text.Case
import OntoTypes.Text.CaseTables
import OntoTypes.Text.CharClass
import OntoTypes.Text.Lines
import OntoTypes.Text.Name
import OntoTypes.Text.Octets
import OntoTypes.Text.Order
import OntoTypes.Text.Path
import OntoTypes.Text.Quoted
import OntoTypes.Text.Split
import OntoTypes.Time.Clock
import OntoTypes.Time.Date
import OntoTypes.Time.Duration
import OntoTypes.Triple.Graph
import OntoTypes.Triple.Line
import OntoTypes.Main
import OntoTypes.Proofs.Ancestry
import OntoTypes.Proofs.Edit
import OntoTypes.Proofs.Soundness
import OntoTypes.Proofs.Passes
import OntoTypes.Proofs.Reading
import OntoTypes.Proofs.Atomic
import OntoTypes.Proofs.Distinct
import OntoTypes.Proofs.Declaring
import OntoTypes.Proofs.Assembly
import OntoTypes.Proofs.Recorded
import OntoTypes.Proofs.ClassGraph
import OntoTypes.Proofs.WellFormed
import OntoTypes.Proofs.Sorting
import OntoTypes.Proofs.Linked
import OntoTypes.Proofs.Expansion
import OntoTypes.Proofs.Closed
import OntoTypes.Proofs.Outline
import OntoTypes.Proofs.Digest
import OntoTypes.Proofs.Counts
import OntoTypes.Proofs.ValueOrder
import OntoTypes.Proofs.TopicOrder
import OntoTypes.Proofs.Grouping
import OntoTypes.Proofs.Filing
import OntoTypes.Proofs.Slots
import OntoTypes.Proofs.Ingestion
import OntoTypes.Proofs.Legible
import OntoTypes.Proofs.CommentBlock
import OntoTypes.Proofs.OutlineText
import OntoTypes.Proofs.FactOrder
import OntoTypes.Proofs.Retention
import OntoTypes.Proofs.Aliasing
import OntoTypes.Proofs.Flattening
import OntoTypes.Proofs.Collapse
import OntoTypes.Proofs.Circularity
import OntoTypes.Proofs.Accounting
import OntoTypes.Proofs.Descriptions
import OntoTypes.Proofs.EmissionOrder
import OntoTypes.Proofs.Replay
import OntoTypes.Proofs.Names
import OntoTypes.Proofs.Relevance
import OntoTypes.Proofs.Extension
import OntoTypes.Proofs.Identifiers
import OntoTypes.Proofs.Scopes
import OntoTypes.Proofs.Splicing
import OntoTypes.Proofs.TripleOrder
import OntoTypes.Proofs.Freezing
import OntoTypes.Proofs.Displaced
import OntoTypes.Proofs.Tallies
import OntoTypes.Proofs.Hiding
import OntoTypes.Proofs.CycleCheck
import OntoTypes.Proofs.TypeText
import OntoTypes.Proofs.CommentFrame
import OntoTypes.Proofs.Respelling
import OntoTypes.Proofs.KeywordNames
import OntoTypes.Proofs.Attachment
import OntoTypes.Proofs.Enumerations
import OntoTypes.Proofs.Provenance
import OntoTypes.Proofs.ListedContexts
import OntoTypes.Proofs.Ascent
import OntoTypes.Proofs.Roles
import OntoTypes.Proofs.Refusals
