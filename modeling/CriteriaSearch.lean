import CriteriaSearch.Binary64.Basic
import CriteriaSearch.Binary64.Decimal
import CriteriaSearch.Binary64.Power
import CriteriaSearch.Coercion
import CriteriaSearch.Collection.Decoding
import CriteriaSearch.Collection.Definition
import CriteriaSearch.Collection.Operations
import CriteriaSearch.Connection.Client
import CriteriaSearch.Connection.Config
import CriteriaSearch.Connection.Wire
import CriteriaSearch.Criteria.Basic
import CriteriaSearch.Criteria.Build
import CriteriaSearch.Criteria.Clause
import CriteriaSearch.Criteria.Expression
import CriteriaSearch.Declaration.Basic
import CriteriaSearch.Declaration.Casing
import CriteriaSearch.Declaration.ExpressionGrammar
import CriteriaSearch.Declaration.FieldIndex
import CriteriaSearch.Declaration.Grammar
import CriteriaSearch.Declaration.PatternGrammar
import CriteriaSearch.Declaration.Phrases
import CriteriaSearch.Declaration.Reader
import CriteriaSearch.Declaration.Schema
import CriteriaSearch.Declaration.Token
import CriteriaSearch.Declaration.TokenReader
import CriteriaSearch.Declaration.TypeGrammar
import CriteriaSearch.Document
import CriteriaSearch.DomainName.Basic
import CriteriaSearch.DomainName.CharacterTable
import CriteriaSearch.DomainName.Direction
import CriteriaSearch.DomainName.Joining
import CriteriaSearch.DomainName.Mapping
import CriteriaSearch.DomainName.MappingTable
import CriteriaSearch.DomainName.Punycode
import CriteriaSearch.Error
import CriteriaSearch.Filter
import CriteriaSearch.Http.Exchange
import CriteriaSearch.Http.Octets
import CriteriaSearch.Http.Status
import CriteriaSearch.Http.Url
import CriteriaSearch.Identifier
import CriteriaSearch.Json.Basic
import CriteriaSearch.Json.Decoding
import CriteriaSearch.Json.Lexer
import CriteriaSearch.Json.Printer
import CriteriaSearch.Json.Reader
import CriteriaSearch.Json.Written
import CriteriaSearch.Model.Basic
import CriteriaSearch.Model.Collection
import CriteriaSearch.Model.Tracker
import CriteriaSearch.Page
import CriteriaSearch.Pattern
import CriteriaSearch.Proofs.Acknowledgement
import CriteriaSearch.Proofs.BuiltClauses
import CriteriaSearch.Proofs.BulkFraming
import CriteriaSearch.Proofs.BulkOperations
import CriteriaSearch.Proofs.Calendar
import CriteriaSearch.Proofs.CanonicalText
import CriteriaSearch.Proofs.CasedWords
import CriteriaSearch.Proofs.ClauseReading
import CriteriaSearch.Proofs.ClientSideErrors
import CriteriaSearch.Proofs.ComparedInstants
import CriteriaSearch.Proofs.ComparedIntegers
import CriteriaSearch.Proofs.CompiledQueries
import CriteriaSearch.Proofs.ConcurrentBatches
import CriteriaSearch.Proofs.ConcurrentUpdates
import CriteriaSearch.Proofs.CriteriaGrammar
import CriteriaSearch.Proofs.EntryReading
import CriteriaSearch.Proofs.Evaluation
import CriteriaSearch.Proofs.ExposedRecords
import CriteriaSearch.Proofs.FastPath
import CriteriaSearch.Proofs.FoldedFragments
import CriteriaSearch.Proofs.FoldedPatterns
import CriteriaSearch.Proofs.FoundRecords
import CriteriaSearch.Proofs.Fragments
import CriteriaSearch.Proofs.IdentifierConditions
import CriteriaSearch.Proofs.IdentifierLookup
import CriteriaSearch.Proofs.Induction
import CriteriaSearch.Proofs.InsertedBatches
import CriteriaSearch.Proofs.InsertedDocuments
import CriteriaSearch.Proofs.Isolation
import CriteriaSearch.Proofs.IssuedIdentifiers
import CriteriaSearch.Proofs.KeyOrder
import CriteriaSearch.Proofs.LeadingIntegers
import CriteriaSearch.Proofs.LookupPages
import CriteriaSearch.Proofs.PageNumbers
import CriteriaSearch.Proofs.Pagination
import CriteriaSearch.Proofs.PassedThrough
import CriteriaSearch.Proofs.PatternPieces
import CriteriaSearch.Proofs.PercentEncoding
import CriteriaSearch.Proofs.PreparedDocuments
import CriteriaSearch.Proofs.PrintedText
import CriteriaSearch.Proofs.QueryRequests
import CriteriaSearch.Proofs.Records
import CriteriaSearch.Proofs.RegularExpressions
import CriteriaSearch.Proofs.Removal
import CriteriaSearch.Proofs.ReorderedClauses
import CriteriaSearch.Proofs.RepeatedMerges
import CriteriaSearch.Proofs.RequestPaths
import CriteriaSearch.Proofs.SearchBodyRoundTrip
import CriteriaSearch.Proofs.SentRequests
import CriteriaSearch.Proofs.SerializedNames
import CriteriaSearch.Proofs.Shapes
import CriteriaSearch.Proofs.SortedHits
import CriteriaSearch.Proofs.StatisticBuckets
import CriteriaSearch.Proofs.StoredDocuments
import CriteriaSearch.Proofs.TagReading
import CriteriaSearch.Proofs.TextMatching
import CriteriaSearch.Proofs.TicketRoundTrip
import CriteriaSearch.Proofs.UnknownEntries
import CriteriaSearch.Proofs.UpdateBatches
import CriteriaSearch.Proofs.UpdateCourse
import CriteriaSearch.Proofs.UpdateWindow
import CriteriaSearch.Proofs.WriteBack
import CriteriaSearch.Proofs.WrittenValues
import CriteriaSearch.Query.Basic
import CriteriaSearch.Query.OfCriteria
import CriteriaSearch.Schema
import CriteriaSearch.SearchBody.Reader
import CriteriaSearch.SearchBody.Writer
import CriteriaSearch.Store.Decoding
import CriteriaSearch.Store.Evaluation
import CriteriaSearch.Store.Memory
import CriteriaSearch.Store.Protocol
import CriteriaSearch.Store.Script
import CriteriaSearch.Store.Session
import CriteriaSearch.Store.Sorting
import CriteriaSearch.Text.Blank
import CriteriaSearch.Text.Case
import CriteriaSearch.Text.CaseTable
import CriteriaSearch.Text.CodeTable
import CriteriaSearch.Text.Composition
import CriteriaSearch.Text.CompositionTable
import CriteriaSearch.Text.Hexadecimal
import CriteriaSearch.Text.Split
import CriteriaSearch.Timestamp.Basic
import CriteriaSearch.Timestamp.Calendar
import CriteriaSearch.Timestamp.Reader
