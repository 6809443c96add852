import IndexSearch.Request.Draft
import IndexSearch.Answer.Results
import IndexSearch.Digest.Sha256
import IndexSearch.Json.Conversion
import IndexSearch.Json.Reader
import IndexSearch.Json.Writer
import IndexSearch.Session
import IndexSearch.Proofs.Digits
import IndexSearch.Proofs.FilterChain
import IndexSearch.Proofs.PlainText
import IndexSearch.Proofs.FilterReader
import IndexSearch.Proofs.FilterReading
import IndexSearch.Proofs.Precedence
import IndexSearch.Proofs.NearestDouble
import IndexSearch.Proofs.NumeralText
import IndexSearch.Proofs.JsonNumbers
import IndexSearch.Proofs.JsonTexts
import IndexSearch.Proofs.JsonReading
import IndexSearch.Proofs.RequestKeys
import IndexSearch.Proofs.RememberedAnswers
import IndexSearch.Proofs.Invalidation
import IndexSearch.Proofs.FailedSearches
import IndexSearch.Proofs.SharedStores
import IndexSearch.Proofs.Interleaving
import IndexSearch.Proofs.StaleAnswers
import IndexSearch.Proofs.DraftHistory
import IndexSearch.Proofs.FailedExchanges
import IndexSearch.Proofs.UncachedSearches
import IndexSearch.Proofs.PassedChecks
import IndexSearch.Proofs.ShapedAnswers
import IndexSearch.Proofs.LiteralTexts
import IndexSearch.Proofs.FilterFaults
import IndexSearch.Proofs.StoredValues
import IndexSearch.Proofs.DeclaredErrors
import IndexSearch.Proofs.MomentReading
import IndexSearch.Proofs.BuiltRequests
import IndexSearch.Proofs.DistanceTexts
import IndexSearch.Proofs.SortClauses
import IndexSearch.Proofs.RoundedDistances
import IndexSearch.Proofs.SearchUrls
import IndexSearch.Proofs.ForeignKeys
import IndexSearch.Proofs.ClientHistory
import IndexSearch.Proofs.EqualFilters
import IndexSearch.Proofs.EqualTexts
import IndexSearch.Proofs.SessionHistory
import IndexSearch.Proofs.LeftOpen
import IndexSearch.Proofs.RemovalCounts
import IndexSearch.Proofs.Conjunctions
