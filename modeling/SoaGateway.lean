import SoaGateway.Foundation.Machine
import SoaGateway.Common
import SoaGateway.Foundation.Binary32
import SoaGateway.Foundation.Ring
import SoaGateway.Foundation.ShiftRegister
import SoaGateway.Foundation.ShiftRegisterPolynomial
import SoaGateway.Ipc.Crc
import SoaGateway.Ipc.CrcArc
import SoaGateway.Ipc.Bridge
import SoaGateway.Ipc.BridgeProperties
import SoaGateway.Ipc.Link
import SoaGateway.Ipc.LinkProperties
import SoaGateway.Safety.Arbitrator
import SoaGateway.Safety.ArbitratorMachine
import SoaGateway.Safety.ArbitratorProperties
import SoaGateway.Safety.DegradationMatrix
import SoaGateway.Safety.FaultHistory
import SoaGateway.Safety.SilentDomain
import SoaGateway.Safety.Handover
import SoaGateway.Iam.Authorisation
import SoaGateway.Iam.AuditTrail
import SoaGateway.Foundation.TokenBucket
import SoaGateway.Network.RateLimiter
import SoaGateway.Network.RateLimiterProperties
import SoaGateway.Network.Conformance
import SoaGateway.Safety.TransitionLog
import SoaGateway.Safety.DomainHistory
import SoaGateway.Safety.FaultCount
import SoaGateway.Safety.HealthyRun
import SoaGateway.Safety.CommandCopies
import SoaGateway.Network.Isolation
import SoaGateway.Services.Manager
import SoaGateway.Services.Registry
import SoaGateway.Services.Dispatch
import SoaGateway.Services.DeadSubscriberMonitor
import SoaGateway.Foundation.Tenancy
import SoaGateway.Services.Liveness
import SoaGateway.Hse.Adapter
import SoaGateway.Hse.Requests
import SoaGateway.Safety.SensorDecoder
import SoaGateway.Safety.HardFault
import SoaGateway.Safety.CycleView
import SoaGateway.Safety.IngestionOrder
import SoaGateway.Safety.TransitionCause
import SoaGateway.Foundation.ErrorDetection
import SoaGateway.Ipc.SlotCode
import SoaGateway.Network.TableInvariant
import SoaGateway.Dds.QosPolicy
import SoaGateway.Dds.SampleHistory
import SoaGateway.Dds.DeadlineMisses
import SoaGateway.Foundation.Clock
import SoaGateway.Dds.DeadlineDetection
import SoaGateway.Services.ScanCycle
import SoaGateway.Services.Classification
import SoaGateway.Foundation.Loop
import SoaGateway.Services.DispatchBound
import SoaGateway.Services.Republishing
import SoaGateway.Services.Offers
import SoaGateway.Network.RefillSchedule
import SoaGateway.Hse.FailClosed
import SoaGateway.Ipc.CrcSerial
import SoaGateway.Foundation.Driving
import SoaGateway.Gateway.Adaptor
import SoaGateway.Gateway.Delivery
import SoaGateway.Foundation.Binary32Order
import SoaGateway.Safety.Envelope
import SoaGateway.Gateway.EndToEnd
import SoaGateway.Safety.SupervisorView
import SoaGateway.Foundation.Linearisation
import SoaGateway.Services.SplitPublish
import SoaGateway.Network.ConcurrentAdmission
import SoaGateway.Safety.ConcurrentIngestion
import SoaGateway.Network.ExactAdmission
import SoaGateway.Safety.Recovery
import SoaGateway.Safety.Listeners
import SoaGateway.Ipc.CellOrigin
import SoaGateway.Dds.ViolationCounts
import SoaGateway.Iam.Verdicts
import SoaGateway.Iam.ConcurrentAudit
import SoaGateway.Network.Occupancy
import SoaGateway.Services.ConcurrentBeats
import SoaGateway.Dds.ConcurrentDeadlines
import SoaGateway.Safety.FaultTicks
