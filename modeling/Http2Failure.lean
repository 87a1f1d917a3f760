import Http2Failure.Proofs.Acceptance
import Http2Failure.Proofs.Apart
import Http2Failure.Proofs.CauseChain
import Http2Failure.Proofs.Classification
import Http2Failure.Proofs.Coherence
import Http2Failure.Proofs.Course
import Http2Failure.Proofs.Currency
import Http2Failure.Proofs.Deeds.Scripts
import Http2Failure.Proofs.Designation
import Http2Failure.Proofs.Disclosure
import Http2Failure.Proofs.FixedKind
import Http2Failure.Proofs.FrozenPayload
import Http2Failure.Proofs.Integrity
import Http2Failure.Proofs.Origin
import Http2Failure.Proofs.Paths
import Http2Failure.Proofs.Quotation
import Http2Failure.Proofs.ReadOnly
import Http2Failure.Proofs.Rebuilt
import Http2Failure.Proofs.Records
import Http2Failure.Proofs.RoundTrip
import Http2Failure.Proofs.Sharing
import Http2Failure.Proofs.Snapshot
import Http2Failure.Proofs.Succession
import Http2Failure.Proofs.Telling
import Http2Failure.Proofs.Totality
