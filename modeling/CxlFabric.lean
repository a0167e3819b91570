import CxlFabric.OpenEnums
import CxlFabric.LabelledRuns
import CxlFabric.MapSums
import CxlFabric.FileReplacement
import CxlFabric.TwoCounterLedger
import CxlFabric.StableFront
import CxlFabric.SkippingSums
import CxlFabric.ReflectedCrc
import CxlFabric.Identity
import CxlFabric.Enumerations
import CxlFabric.Records
import CxlFabric.Lifecycle
import CxlFabric.Accounting
import CxlFabric.Selection
import CxlFabric.Fabric
import CxlFabric.FabricSteps
import CxlFabric.Synthetic
import CxlFabric.RecordChanges
import CxlFabric.RecordKeys
import CxlFabric.Reservations
import CxlFabric.ReservationLedger
import CxlFabric.PoolBudget
import CxlFabric.Bookings
import CxlFabric.Conservation
import CxlFabric.LedgerAudit
import CxlFabric.CapacityLines
import CxlFabric.AuditVerdict
import CxlFabric.PoolArithmetic
import CxlFabric.Reconciliation
import CxlFabric.ReleaseCounters
import CxlFabric.RegionUpdates
import CxlFabric.AdmittedCapacity
import CxlFabric.Atomicity
import CxlFabric.Fencing
import CxlFabric.MembershipFences
import CxlFabric.Incarnations
import CxlFabric.Eligibility
import CxlFabric.FreshEvidence
import CxlFabric.Ranking
import CxlFabric.LeadingTriple
import CxlFabric.HardRequirements
import CxlFabric.Failover
import CxlFabric.LifecycleRuns
import CxlFabric.RecordHistory
import CxlFabric.ReservationHistory
import CxlFabric.Membership
import CxlFabric.MemberLinks
import CxlFabric.ByteDecoders
import CxlFabric.ByteFormats
import CxlFabric.Protocol
import CxlFabric.Persistence
import CxlFabric.PersistenceRoundTrip
import CxlFabric.ReaderBounds
import CxlFabric.SavedStates
import CxlFabric.StoredStructure
import CxlFabric.Restart
import CxlFabric.Revalidation
import CxlFabric.ImportedEvidence
import CxlFabric.Codec
import CxlFabric.CodecRoundTrip
import CxlFabric.ControlFormats
import CxlFabric.FailureDomains
import CxlFabric.Frames
import CxlFabric.Checksums
import CxlFabric.PersistEnvelope
import CxlFabric.ByteStreams
import CxlFabric.FrameStreams
import CxlFabric.Coordinator
import CxlFabric.Worker
import CxlFabric.CoordinatorSteps
import CxlFabric.CoordinatorAuthority
import CxlFabric.ReleaseAuthority
import CxlFabric.WorkerDeath
import CxlFabric.BootIds
import CxlFabric.QueryReplies
import CxlFabric.ThreadTurns
import CxlFabric.Publications
import CxlFabric.Durability
import CxlFabric.Conversations
import CxlFabric.RequestReply
import CxlFabric.AnsweredRequests
import CxlFabric.WorkerReplies
import CxlFabric.Announcements
import CxlFabric.ClientCapacity
import CxlFabric.Quiescence
import CxlFabric.LoadedStates
import CxlFabric.FileWrites
import CxlFabric.SettlementOrder
import CxlFabric.WorkerProcess
import CxlFabric.Deployment
import CxlFabric.Wires
import CxlFabric.WorkerResults
import CxlFabric.WorkersFinish
import CxlFabric.FrameLinks
import CxlFabric.Explanations
import CxlFabric.PrintedSuccesses
