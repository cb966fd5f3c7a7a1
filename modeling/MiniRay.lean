import MiniRay.EnhancedPublication.Lifecycle
import MiniRay.EnhancedPublication.Graph
import MiniRay.EnhancedPublication.Binding
import MiniRay.Ownership.Collecting
import MiniRay.Actor.History
import MiniRay.Journal.Compensation
import MiniRay.Handoff.Order
import MiniRay.Ownership.AttemptSpec
import MiniRay.Ownership.CustodySpec
import MiniRay.Pull.PullSpec
import MiniRay.Lease.CustodySpec
import MiniRay.Transfer.TransferSpec
import MiniRay.Blocking.BlockingSpec
import MiniRay.Node.ActorWorkerSpec
import MiniRay.Control.ActorDrainSpec
import MiniRay.Actor.CallSpec
import MiniRay.Control.MembershipSpec
import MiniRay.Control.ViewSpec
import MiniRay.Node.ReportSpec
import MiniRay.Core.WorkerDeathSpec
import MiniRay.Identity.Uniqueness
import MiniRay.Core.ReplicaCleanupSpec
import MiniRay.Recovery.OwnedRequestSpec
import MiniRay.Recovery.ForeignLineage
import MiniRay.Node.DeathViews
import MiniRay.Placement.HybridPolicy
import MiniRay.Ownership.MetadataDigest
import MiniRay.PublicationEncoding
import MiniRay.Handoff.Obligations
import MiniRay.Transport.ServingSpec
import MiniRay.Dependency.NestedArgumentSpec
import MiniRay.Ownership.RetiredReplicas
import MiniRay.Placement.ParticipantDigest
import MiniRay.Core.StoredFetch
import MiniRay.Core.OwnedDrops
