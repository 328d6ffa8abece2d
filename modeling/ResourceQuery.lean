import ResourceQuery.Main
import ResourceQuery.Repository
import ResourceQuery.Proofs.Compiling
import ResourceQuery.Proofs.Meaning
import ResourceQuery.Proofs.Obstacles
import ResourceQuery.Proofs.IdentityFields
import ResourceQuery.Proofs.JsonSpelling
import ResourceQuery.Proofs.JsonWriting
import ResourceQuery.Proofs.JsonDepth
import ResourceQuery.Proofs.QueryReading
import ResourceQuery.Proofs.QueryDepth
import ResourceQuery.Proofs.JsonNesting
import ResourceQuery.Proofs.CanonicalText
import ResourceQuery.Proofs.Fingerprints
import ResourceQuery.Proofs.BodyForm
import ResourceQuery.Proofs.RecordSpelling
import ResourceQuery.Proofs.RepositoryRuns
import ResourceQuery.Proofs.QuerySpelling
import ResourceQuery.Proofs.JsonGrammar
import ResourceQuery.Proofs.SpellingIndependence
import ResourceQuery.Proofs.Collapsing
import ResourceQuery.Proofs.SearchAndCount
import ResourceQuery.Proofs.JsonLines
import ResourceQuery.Proofs.CalendarDays
import ResourceQuery.Proofs.InstantText
import ResourceQuery.Proofs.TimeParts
import ResourceQuery.Proofs.TimeForms
import ResourceQuery.Proofs.WrittenTimes
import ResourceQuery.Proofs.PrintedTimes
import ResourceQuery.Proofs.RequestText
import ResourceQuery.Proofs.OpenedLogs
import ResourceQuery.Proofs.CommandRuns
import ResourceQuery.Proofs.FieldRouting
import ResourceQuery.Proofs.IntegerText
import ResourceQuery.Proofs.PageWindows
import ResourceQuery.Proofs.SortOrders
import ResourceQuery.Proofs.LetterCase
import ResourceQuery.Proofs.Overrides
import ResourceQuery.Proofs.BinaryRange
import ResourceQuery.Proofs.FloatText
import ResourceQuery.Proofs.KeyOrder
import ResourceQuery.Proofs.Documents
import ResourceQuery.Proofs.SearchReplies
import ResourceQuery.Proofs.FieldNames
