import Ocpp.Library.Sampling
import Ocpp.Library.Recurrence
import Ocpp.Library.Iterator
import Ocpp.Library.HashMap
import Ocpp.Library.Transition
import Ocpp.Library.Json
import Ocpp.Library.JsonSchema
import Ocpp.Library.Program
import Ocpp.Library.Pool
import Ocpp.Library.Protocol
import Ocpp.Types.Time
import Ocpp.Types.Charging
import Ocpp.Types.Authorization
import Ocpp.Types.Error
import Ocpp.Types.Message
import Ocpp.Types.Transaction
import Ocpp.Types.Certificate
import Ocpp.ChargePoint.Composite
import Ocpp.ChargePoint.CompositeFaithful
import Ocpp.ChargePoint.CompositeOrder
import Ocpp.ChargePoint.V201ChargingProfiles
import Ocpp.ChargePoint.V201CompositeFaithful
import Ocpp.ChargePoint.V201ReportedPower
import Ocpp.ChargePoint.LocalList
import Ocpp.ChargePoint.AuthCache
import Ocpp.ChargePoint.ChargingProfiles
import Ocpp.ChargePoint.Station
import Ocpp.ChargePoint.Transactions
import Ocpp.ChargePoint.Commands
import Ocpp.ChargePoint.System
import Ocpp.ChargePoint.Effects
import Ocpp.ChargePoint.OneTransaction
import Ocpp.ChargePoint.ReservedFor
import Ocpp.ChargePoint.Numbering
import Ocpp.ChargePoint.EventStream
import Ocpp.ChargePoint.Deferred
import Ocpp.ChargePoint.OnIdle
import Ocpp.ChargePoint.Outcomes
import Ocpp.ChargePoint.AllOrNothing
import Ocpp.ChargePoint.Completed
import Ocpp.ChargePoint.ProfileStores
import Ocpp.ChargePoint.Lockstep
import Ocpp.ChargePoint.Energised
import Ocpp.ChargePoint.ChargingState
import Ocpp.ChargePoint.Reservations
import Ocpp.ChargePoint.Connectors
import Ocpp.ChargePoint.SingleFlight
import Ocpp.ChargePoint.ReportStreams
import Ocpp.ChargePoint.PendingCsr
import Ocpp.ChargePoint.V201DeviceModel
import Ocpp.ChargePoint.V201Reports
import Ocpp.ChargePoint.Boot
import Ocpp.ChargePoint.Emitters
import Ocpp.ChargePoint.StatusReports
import Ocpp.ChargePoint.StatusView
import Ocpp.ChargePoint.Connector
import Ocpp.ChargePoint.ConnectedFlag
import Ocpp.ChargePoint.LocalListSpec
import Ocpp.Messages.Serialization
import Ocpp.Messages.V16j
import Ocpp.Messages.Schemas
import Ocpp.Messages.Encoding
import Ocpp.Messages.Deserialization
import Ocpp.Messages.Validation
import Ocpp.Messages.Dispatcher
import Ocpp.Messages.Format
import Ocpp.Messages.SchemaValidation
import Ocpp.Transport.Frame
import Ocpp.Transport.Recovery
import Ocpp.Transport.Event
import Ocpp.Transport.Inbound
import Ocpp.Transport.Handshake
import Ocpp.Transport.Server
import Ocpp.Transport.ServerCall
import Ocpp.Transport.Registry
import Ocpp.Transport.Reply
import Ocpp.Transport.Pending
import Ocpp.Transport.Client
import Ocpp.Library.Text
import Ocpp.Library.Decimal
import Ocpp.Library.Grouping
import Ocpp.Library.Crossing
import Ocpp.Messages.MultipleOf
import Ocpp.ChargePoint.MonitoringReports
import Ocpp.ChargePoint.MonitorTrips
import Ocpp.Library.Fnv
import Ocpp.ChargePoint.CertificateHashes
import Ocpp.ChargePoint.CertificateStore
import Ocpp.ChargePoint.ProfilePages
import Ocpp.Library.Bounded
import Ocpp.ChargePoint.ReportPages
import Ocpp.ChargePoint.CallErrors
import Ocpp.ChargePoint.StateMachine
import Ocpp.ChargePoint.TransactionManager
import Ocpp.ChargePoint.FinishedTransactions
import Ocpp.Library.Correlation
import Ocpp.Transport.Link
import Ocpp.Transport.Exchanges
import Ocpp.Transport.Conversation
import Ocpp.ChargePoint.Peers
import Ocpp.ChargePoint.SmartCharging
import Ocpp.ChargePoint.ProfilePlacement
import Ocpp.Library.Registers
import Ocpp.Messages.Configuration
import Ocpp.ChargePoint.Configuration
import Ocpp.Transport.RealTime
import Ocpp.ChargePoint.RemoteConfiguration
import Ocpp.Library.Tickets
import Ocpp.ChargePoint.NotifyEvents
import Ocpp.Library.Outbox
import Ocpp.ChargePoint.Maintenance
import Ocpp.ChargePoint.DisplayMessages
