import NextWord.Alias
import NextWord.Completion.Answer
import NextWord.Completion.Attributes
import NextWord.Completion.Context
import NextWord.Completion.Names
import NextWord.Completion.Offer
import NextWord.Completion.Query
import NextWord.Completion.Request
import NextWord.Completion.Snippet
import NextWord.Filter.Completion
import NextWord.Filter.Token
import NextWord.Header
import NextWord.Log.Entry
import NextWord.Log.Logged
import NextWord.Log.Message
import NextWord.Log.Screen
import NextWord.Log.Session
import NextWord.Number.Binary64
import NextWord.Number.Shortest
import NextWord.Path.Index
import NextWord.Path.Split
import NextWord.Path.Template
import NextWord.Pattern.Segment
import NextWord.Pattern.Tree
import NextWord.Predicate.Environment
import NextWord.Predicate.Eval
import NextWord.Predicate.Expr
import NextWord.Predicate.ForPath
import NextWord.Predicate.Parser
import NextWord.Predicate.Token
import NextWord.Predicate.Visibility
import NextWord.Regex.Match
import NextWord.Regex.Parser
import NextWord.Regex.Syntax
import NextWord.Resource.Attribute
import NextWord.Resource.Basic
import NextWord.Resource.Loading
import NextWord.Resource.Registry
import NextWord.Schema.Field
import NextWord.Schema.Validation
import NextWord.Settings.Basic
import NextWord.Settings.Configuration
import NextWord.Table
import NextWord.Text.Blank
import NextWord.Text.DecimalDigit
import NextWord.Text.Lowercase
import NextWord.Text.Pieces
import NextWord.Text.Printable
import NextWord.Text.Quoted
import NextWord.Text.Ranges
import NextWord.Text.Similarity
import NextWord.Text.WordChar
import NextWord.Value.Basic
import NextWord.Value.Equality
import NextWord.Value.Json
import NextWord.Value.Toml
import NextWord.Value.Written
import NextWord.Vocabulary
import NextWord.Proofs.Table
import NextWord.Proofs.Text.Joined
import NextWord.Proofs.Environment.Overwriting
import NextWord.Proofs.Environment.LastWriter
import NextWord.Proofs.Path.WrittenIndex
import NextWord.Proofs.Predicate.Induction
import NextWord.Proofs.Predicate.Locality
import NextWord.Proofs.Predicate.OptionalAccess
import NextWord.Proofs.Predicate.Grammar
import NextWord.Proofs.Predicate.ReadingSound
import NextWord.Proofs.Predicate.ReadingComplete
import NextWord.Proofs.Predicate.Lexemes
import NextWord.Proofs.Predicate.Rendering
import NextWord.Proofs.Pattern.Routes
import NextWord.Proofs.Pattern.Walk
import NextWord.Proofs.Pattern.Completions
import NextWord.Proofs.Pattern.FullCompletion
import NextWord.Proofs.Pattern.Stepwise
import NextWord.Proofs.Pattern.Merging
import NextWord.Proofs.Filter.Taken
import NextWord.Proofs.Filter.FirstToken
import NextWord.Proofs.Filter.Reading
import NextWord.Proofs.Filter.Continued
import NextWord.Proofs.Filter.Candidates
import NextWord.Proofs.Filter.Sentences
import NextWord.Proofs.Filter.KindsRead
import NextWord.Proofs.Filter.Places
import NextWord.Proofs.Filter.OfferedAt
import NextWord.Proofs.Filter.WithinGrammar
import NextWord.Proofs.Path.Folding
import NextWord.Proofs.Resource.WellKeyed
import NextWord.Proofs.Resource.Lookup
import NextWord.Proofs.Resource.LoadingOutcome
import NextWord.Proofs.Resource.Independence
import NextWord.Proofs.Resource.Usable
import NextWord.Proofs.Resource.SingularNames
import NextWord.Proofs.Number.Overflow
import NextWord.Proofs.Predicate.Failures
import NextWord.Proofs.Predicate.Judging
import NextWord.Proofs.Completion.FirstOccurrences
import NextWord.Proofs.Completion.Combined
import NextWord.Proofs.Completion.LiteralKeys
import NextWord.Proofs.Completion.OfferedKeys
import NextWord.Proofs.Completion.LoadedKeys
import NextWord.Proofs.Completion.NestedHeaders
import NextWord.Proofs.Pattern.Spelling
import NextWord.Proofs.Pattern.FlatItems
import NextWord.Proofs.Pattern.Delimited
import NextWord.Proofs.Regex.PlainReading
import NextWord.Proofs.Regex.PlainMatching
import NextWord.Proofs.Regex.Steps
import NextWord.Proofs.Regex.TokenReaders
import NextWord.Proofs.Regex.AddedDollar
import NextWord.Proofs.Pattern.FlatGrammar
import NextWord.Proofs.Pattern.CrossProduct
import NextWord.Proofs.Completion.ReferenceWalk
import NextWord.Proofs.Path.Instances
import NextWord.Proofs.Path.NextIndices
import NextWord.Proofs.Predicate.OwnPlaces
import NextWord.Proofs.Predicate.InOrder
import NextWord.Proofs.Pattern.Observations
import NextWord.Proofs.Filter.RuleTable
import NextWord.Proofs.Filter.QuotedValues
import NextWord.Proofs.Predicate.Spacing
import NextWord.Proofs.Completion.Escaping
import NextWord.Proofs.Predicate.Flattened
import NextWord.Proofs.Predicate.Equality
import NextWord.Proofs.Pattern.EmptyCompletions
import NextWord.Proofs.Completion.EmptyKeys
import NextWord.Proofs.Completion.VariableNames
import NextWord.Proofs.Resource.WrittenTypes
import NextWord.Proofs.Schema.EntryByEntry
import NextWord.Proofs.Settings.Agreement
import NextWord.Proofs.Header
