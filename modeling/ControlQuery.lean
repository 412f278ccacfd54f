import ControlQuery.CPath.Error
import ControlQuery.CPath.Grammar
import ControlQuery.CPath.Meaning
import ControlQuery.CPath.Parse
import ControlQuery.CPath.Reader
import ControlQuery.CPath.Rule
import ControlQuery.CPath.Syntax
import ControlQuery.CommandLine.Arguments
import ControlQuery.CommandLine.Options
import ControlQuery.CommandLine.Run
import ControlQuery.CommandLine.Session
import ControlQuery.CommandLine.Standard
import ControlQuery.Files.Tree
import ControlQuery.Json.Reader
import ControlQuery.Json.Value
import ControlQuery.Json.Writer
import ControlQuery.Main
import ControlQuery.Manual.Pages
import ControlQuery.Proofs.CPath.Agreement
import ControlQuery.Proofs.CPath.Amounts
import ControlQuery.Proofs.CPath.Attempts
import ControlQuery.Proofs.CPath.Clashes
import ControlQuery.Proofs.CPath.Completeness
import ControlQuery.Proofs.CPath.Concatenation
import ControlQuery.Proofs.CPath.Continuation
import ControlQuery.Proofs.CPath.Copies
import ControlQuery.Proofs.CPath.Derivation
import ControlQuery.Proofs.CPath.ErrorPlaces
import ControlQuery.Proofs.CPath.Furthest
import ControlQuery.Proofs.CPath.Layout
import ControlQuery.Proofs.CPath.Leaves
import ControlQuery.Proofs.CPath.Lookahead
import ControlQuery.Proofs.CPath.Meaning
import ControlQuery.Proofs.CPath.Numbers
import ControlQuery.Proofs.CPath.Pages
import ControlQuery.Proofs.CPath.Placement
import ControlQuery.Proofs.CPath.Places
import ControlQuery.Proofs.CPath.Prescription
import ControlQuery.Proofs.CPath.Published
import ControlQuery.Proofs.CPath.Quotes
import ControlQuery.Proofs.CPath.Quoting
import ControlQuery.Proofs.CPath.Reads
import ControlQuery.Proofs.CPath.Rows
import ControlQuery.Proofs.CPath.Soundness
import ControlQuery.Proofs.CPath.Tokens
import ControlQuery.Proofs.CommandLine.AllOrNothing
import ControlQuery.Proofs.CommandLine.Explain
import ControlQuery.Proofs.CommandLine.Sessions
import ControlQuery.Proofs.Files.Directories
import ControlQuery.Proofs.Json.Containers
import ControlQuery.Proofs.Json.Nodes
import ControlQuery.Proofs.Json.RoundTrip
import ControlQuery.Proofs.Json.Scalars
import ControlQuery.Proofs.Manual.Names
import ControlQuery.Proofs.Manual.Pages
import ControlQuery.Proofs.Property.IgnoringCase
import ControlQuery.Proofs.Query.Amounts
import ControlQuery.Proofs.Query.Downward
import ControlQuery.Proofs.Query.Layering
import ControlQuery.Proofs.Query.Normal
import ControlQuery.Proofs.Query.NormalResults
import ControlQuery.Proofs.Query.Pages
import ControlQuery.Proofs.Query.Plain
import ControlQuery.Proofs.Query.Spine
import ControlQuery.Proofs.Rendering.Conditions
import ControlQuery.Proofs.Rendering.Fixpoint
import ControlQuery.Proofs.Rendering.Functions
import ControlQuery.Proofs.Rendering.RoundTrip
import ControlQuery.Proofs.Rendering.Steps
import ControlQuery.Proofs.Rendering.Tokens
import ControlQuery.Proofs.Report.Colours
import ControlQuery.Proofs.Report.Layout
import ControlQuery.Proofs.Report.Pieces
import ControlQuery.Proofs.Report.Properties
import ControlQuery.Proofs.Search.Apartness
import ControlQuery.Proofs.Search.Candour
import ControlQuery.Proofs.Search.Composition
import ControlQuery.Proofs.Search.DocumentOrder
import ControlQuery.Proofs.Search.Drain
import ControlQuery.Proofs.Search.Duality
import ControlQuery.Proofs.Search.Eager
import ControlQuery.Proofs.Search.Failure
import ControlQuery.Proofs.Search.Laziness
import ControlQuery.Proofs.Search.Nearness
import ControlQuery.Proofs.Search.Neighbourhood
import ControlQuery.Proofs.Search.Nesting
import ControlQuery.Proofs.Search.Paging
import ControlQuery.Proofs.Search.Pauses
import ControlQuery.Proofs.Search.Relatives
import ControlQuery.Proofs.Search.Remainder
import ControlQuery.Proofs.Search.Removals
import ControlQuery.Proofs.Search.Renumbering
import ControlQuery.Proofs.Search.Repetition
import ControlQuery.Proofs.Search.Results
import ControlQuery.Proofs.Search.WalkInvariant
import ControlQuery.Proofs.Search.Walks
import ControlQuery.Proofs.Search.Widening
import ControlQuery.Proofs.Snapshot.Distances
import ControlQuery.Proofs.Snapshot.Image
import ControlQuery.Proofs.Snapshot.Order
import ControlQuery.Proofs.Snapshot.Pruning
import ControlQuery.Proofs.Snapshot.Staleness
import ControlQuery.Proofs.Snapshot.Subtrees
import ControlQuery.Proofs.Unicode.FinalSigma
import ControlQuery.Property.Condition
import ControlQuery.Property.Name
import ControlQuery.Property.Value
import ControlQuery.Query.Basic
import ControlQuery.Query.Compose
import ControlQuery.Query.Equality
import ControlQuery.Query.Render
import ControlQuery.Query.Scope
import ControlQuery.Regex.CharSet
import ControlQuery.Regex.Engine
import ControlQuery.Regex.Expr
import ControlQuery.Regex.Reader
import ControlQuery.Regex.Standard
import ControlQuery.Report.Colour
import ControlQuery.Report.Match
import ControlQuery.Search.Engine
import ControlQuery.Search.Stream
import ControlQuery.Search.Walk
import ControlQuery.Snapshot.Arena
import ControlQuery.Snapshot.Document
import ControlQuery.Snapshot.Format
import ControlQuery.Snapshot.Node
import ControlQuery.Snapshot.Properties
import ControlQuery.Snapshot.Removal
import ControlQuery.Snapshot.Standard
import ControlQuery.Snapshot.Tree
import ControlQuery.Text.Digits
import ControlQuery.Text.Quoted
import ControlQuery.Toml.Blank
import ControlQuery.Toml.Number
import ControlQuery.Toml.Reader
import ControlQuery.Toml.Table
import ControlQuery.Toml.Text
import ControlQuery.Tree.Fault
import ControlQuery.Tree.Provider
import ControlQuery.Unicode.CodeRange
import ControlQuery.Unicode.Folding
import ControlQuery.Unicode.GeneralCategory
import ControlQuery.Unicode.Letters
import ControlQuery.Unicode.Lowercase
import ControlQuery.Unicode.Marks
import ControlQuery.Unicode.Numbers
import ControlQuery.Unicode.Punctuation
import ControlQuery.Unicode.Separators
import ControlQuery.Unicode.Symbols
import ControlQuery.Unicode.WhiteSpace
import ControlQuery.Unicode.Word
import ControlQuery.Yaml.Cursor
import ControlQuery.Yaml.Plain
import ControlQuery.Yaml.Reader
import ControlQuery.Yaml.Scalar
import ControlQuery.Yaml.Token
