import RecordQuery.Builder
import RecordQuery.Declaration.Description
import RecordQuery.Execution
import RecordQuery.Operation.Printer
import RecordQuery.Proofs.Agreement
import RecordQuery.Proofs.Comparison
import RecordQuery.Proofs.Laziness
import RecordQuery.Proofs.LetterCase
import RecordQuery.Proofs.Rereading
import RecordQuery.Ticket
import RecordQuery.Proofs.Canonical
import RecordQuery.Proofs.Unambiguous
import RecordQuery.Proofs.NumberCase
import RecordQuery.Proofs.CanonicalFilter
import RecordQuery.Proofs.Consumption
import RecordQuery.Proofs.DerivedSchema
import RecordQuery.Proofs.StableSort
import RecordQuery.Proofs.RecordOrder
import RecordQuery.Proofs.WholeNumbers
import RecordQuery.Proofs.Occurrences
import RecordQuery.Proofs.Thresholds
import RecordQuery.Proofs.Commuting
import RecordQuery.Proofs.SuccessiveSorts
import RecordQuery.Proofs.PageNumbers
import RecordQuery.Proofs.ConstantNames
import RecordQuery.Proofs.DescribedFields
import RecordQuery.Proofs.MarkBytes
import RecordQuery.Proofs.Repetition
