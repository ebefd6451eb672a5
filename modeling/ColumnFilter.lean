import ColumnFilter.Filter.Column
import ColumnFilter.Filter.Fingerprint
import ColumnFilter.Proofs.Fingerprint
import ColumnFilter.Proofs.RoundTrip
import ColumnFilter.Proofs.Streaming
import ColumnFilter.Proofs.Transport
import ColumnFilter.Value.Hash
import ColumnFilter.Proofs.Scopes
import ColumnFilter.Proofs.Batches
import ColumnFilter.Proofs.Counters
import ColumnFilter.Proofs.Calls
import ColumnFilter.Proofs.Untagged
import ColumnFilter.Proofs.Integers
import ColumnFilter.Proofs.Float64
import ColumnFilter.Proofs.Conjunction
import ColumnFilter.Proofs.MissingFields
import ColumnFilter.Proofs.Membership
import ColumnFilter.Proofs.Triviality
import ColumnFilter.Proofs.Attachment
import ColumnFilter.Proofs.Value.Input
import ColumnFilter.Proofs.Session
