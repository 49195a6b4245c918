import QueryGate.Breaker.Traffic
import QueryGate.Engine.Files
import QueryGate.Engine.PoolUse
import QueryGate.Main
import QueryGate.Proofs.Sql.Quoting
import QueryGate.Proofs.Sql.Places
import QueryGate.Proofs.Sql.Blind
import QueryGate.Proofs.Json.Reading
import QueryGate.Proofs.Json.KeyOrder
import QueryGate.Proofs.Request.KeyOrder
import QueryGate.Proofs.Request.Accepted
import QueryGate.Proofs.Service.Run
import QueryGate.Proofs.Service.Coverage
import QueryGate.Proofs.Breaker.SingleTrial
import QueryGate.Proofs.Cache.Entries
import QueryGate.Proofs.Service.Reached
import QueryGate.Proofs.Service.Refusals
import QueryGate.Proofs.Cache.Key
import QueryGate.Proofs.Cache.Recency
import QueryGate.Proofs.Json.Canonical
import QueryGate.Proofs.Request.Acceptance
import QueryGate.Proofs.Service.Serving
import QueryGate.Proofs.Service.History
import QueryGate.Proofs.Json.Reordering
import QueryGate.Proofs.Cache.Canonical
import QueryGate.Proofs.Cache.Usage
import QueryGate.Proofs.Shuffled
import QueryGate.Proofs.Request.Reordering
import QueryGate.Proofs.Sql.Clauses
import QueryGate.Proofs.Sql.Reordering
import QueryGate.Proofs.Service.Answers
import QueryGate.Proofs.Service.Course
import QueryGate.Proofs.Sql.Outputs
import QueryGate.Proofs.Decimal.Length
import QueryGate.Proofs.Filter.Guarantee
import QueryGate.Proofs.Request.Guarantee
import QueryGate.Proofs.Sql.RowLimit
import QueryGate.Proofs.Retry
import QueryGate.Proofs.Chat.Attempts
import QueryGate.Proofs.Engine.Conservation
import QueryGate.Proofs.Breaker.Streak
import QueryGate.Proofs.Filter.Grammar
import QueryGate.Proofs.Service.Halting
import QueryGate.Proofs.Service.Turn
import QueryGate.Proofs.Filter.Operands
import QueryGate.Proofs.Filter.Substring
import QueryGate.Proofs.Sql.Projection
import QueryGate.Proofs.Sql.References
import QueryGate.Proofs.Sql.Qualified
import QueryGate.Proofs.Text.Trim
import QueryGate.Proofs.Geo.Index
import QueryGate.Proofs.Geo.Lookup
import QueryGate.Proofs.Text.ByteOrder
import QueryGate.Proofs.Geo.Spelling
import QueryGate.Proofs.Geo.Resolution
import QueryGate.Proofs.Geo.LetterCase
import QueryGate.Proofs.Geo.Substitution
import QueryGate.Proofs.Decimal.Order
import QueryGate.Proofs.Geo.Suggestions
import QueryGate.Proofs.Service.Resolved
import QueryGate.Proofs.Service.Building
import QueryGate.Proofs.Service.Lasting
import QueryGate.Proofs.Retry.Schedule
import QueryGate.Proofs.Request.Problems
import QueryGate.Proofs.Request.SortOrder
import QueryGate.Proofs.Request.RoundTrip
import QueryGate.Proofs.Json.RoundTrip
import QueryGate.Proofs.Http.Resolving
import QueryGate.Proofs.Catalog.Lookup
import QueryGate.Proofs.Engine.Accounting
import QueryGate.Proofs.Decimal.Digits
import QueryGate.Proofs.Calendar.Day
import QueryGate.Proofs.Calendar.Text
import QueryGate.Proofs.Engine.Temporal
