import Kaigi.Interleaving.Process
import Kaigi.Interleaving.Machine
import Kaigi.Interleaving.Family
import Kaigi.Collections.HashMap
import Kaigi.Wire.Frame
import Kaigi.Wire.FrameDecoder
import Kaigi.Authority.Group
import Kaigi.Authority.Step
import Kaigi.Authority.Invariants
import Kaigi.Authority.Rules
import Kaigi.Metering.Account
import Kaigi.Replication.ChangeLog
import Kaigi.Replication.Mirror
import Kaigi.Metering.Samples
import Kaigi.Hub.RoomState
import Kaigi.Hub.Validation
import Kaigi.Hub.Roles
import Kaigi.Hub.Admission
import Kaigi.Hub.Billing
import Kaigi.Hub.AnonymousMode
import Kaigi.Hub.Sections
import Kaigi.Hub.Operation
import Kaigi.Hub.Handlers
import Kaigi.Hub.Connection
import Kaigi.Hub.GroupView
import Kaigi.Hub.GroupSteps
import Kaigi.Hub.Discipline
import Kaigi.Hub.HandlerDiscipline
import Kaigi.Hub.Runs
import Kaigi.Hub.Trace
import Kaigi.Hub.Scripts
import Kaigi.Hub.HostSuccession
import Kaigi.Hub.RoomIsolation
import Kaigi.Hub.WaitingRoom
import Kaigi.Hub.Edits
import Kaigi.Hub.Cleanup
import Kaigi.Hub.FailureIsolation
import Kaigi.Hub.ModeSeparation
import Kaigi.Hub.RoleContinuity
import Kaigi.Hub.PermissionsEpoch
import Kaigi.Hub.Accounts
import Kaigi.Hub.Origins
import Kaigi.Hub.Identities
import Kaigi.Hub.ModerationTargets
import Kaigi.Hub.Joining
import Kaigi.Hub.ScreenShares
import Kaigi.Hub.EntriesOnly
import Kaigi.Hub.OutgoingOrder
import Kaigi.Hub.PresenceLog
import Kaigi.Hub.PresenceNumbers
import Kaigi.Hub.TaskProtocol
import Kaigi.Hub.HandlerOperations
import Kaigi.Hub.PresenceAnnouncement
import Kaigi.Hub.PresenceOrder
import Kaigi.Hub.Duties
import Kaigi.Client.AnonymousPeers
import Kaigi.Hub.AnonymousDuties
import Kaigi.Hub.AnonymousKeys
import Kaigi.Hub.AnonymousRoster
import Kaigi.Hub.BilledTime
import Kaigi.Hub.BillingExactness
import Kaigi.Streaming.Mailbox
import Kaigi.Streaming.Reader
import Kaigi.Wire.Framing
import Kaigi.Text.Fields
import Kaigi.Client.Hex
import Kaigi.Hub.Signatures
import Kaigi.Hub.Ledger
import Kaigi.Hub.ActionClocks
import Kaigi.Hub.PolicyProvenance
import Kaigi.Hub.KeyEpochs
import Kaigi.Authority.Staffing
import Kaigi.Hub.FrameOperations
import Kaigi.Hub.Integrity
import Kaigi.Hub.Handling
import Kaigi.Hub.HandlerRules
import Kaigi.Hub.RoomSettings
import Kaigi.Hub.Backpressure
import Kaigi.Hub.BackpressureNotices
import Kaigi.Hub.RateProvenance
import Kaigi.Hub.SenderAuthenticity
import Kaigi.Hub.Acknowledgements
import Kaigi.Hub.Payments
import Kaigi.Hub.Escrow
import Kaigi.Hub.HubProcess
import Kaigi.Hub.MediaNegotiation
import Kaigi.Hub.E2eeGate
import Kaigi.Hub.KeyRelays
import Kaigi.Hub.KeyBinding
import Kaigi.Hub.KeyRotation
import Kaigi.Client.JoinLinkRoundTrip
import Kaigi.Client.JoinLinkSigning
import Kaigi.Client.JoinLinkReplay
import Kaigi.Hub.BillingTask
import Kaigi.Hub.HexRelays
import Kaigi.Client.ConferenceReader
import Kaigi.Client.ConferenceRobustness
import Kaigi.Client.GroupKeyFreshness
import Kaigi.Hub.IssuedCounters
import Kaigi.Hub.CounterContinuity
import Kaigi.Client.PolicyCommands
import Kaigi.Client.PolicySession
import Kaigi.Client.PolicyScope
import Kaigi.Text.Json
import Kaigi.Session.Protocol
import Kaigi.Session.Linux
import Kaigi.Session.Windows
import Kaigi.Session.Web
import Kaigi.Session.Steps
import Kaigi.Session.Agreement
import Kaigi.Session.Authorization
import Kaigi.Session.Counters
import Kaigi.Session.Android
import Kaigi.Session.FallbackPhase
import Kaigi.Session.PaymentGate
import Kaigi.Session.StaleActions
import Kaigi.Session.Runtime
import Kaigi.Session.LinuxRuntime
import Kaigi.Session.WindowsRuntime
import Kaigi.Session.RuntimeAgreement
import Kaigi.Session.RuntimeSteps
import Kaigi.Session.Foreground
import Kaigi.Session.ManualDisconnect
import Kaigi.Session.RotationAcks
import Kaigi.Session.LinuxCodec
import Kaigi.Session.LinuxCodecRoundTrip
import Kaigi.Session.AndroidAgreement
import Kaigi.Hub.RefusedActions
import Kaigi.Hub.MediaControl
import Kaigi.Client.PayLoop
import Kaigi.Session.RecoveryTime
import Kaigi.Pacing.Backoff
import Kaigi.Session.Failures
import Kaigi.Session.ReconnectBackoff
import Kaigi.Metering.Switch
import Kaigi.Session.FallbackTelemetry
import Kaigi.Session.Apple
import Kaigi.Session.MobileFallback
import Kaigi.Text.JsonText
import Kaigi.Text.JsonTextRoundTrip
import Kaigi.Session.WebCodec
import Kaigi.Session.CodecInterop
import Kaigi.Hub.Dismissals
import Kaigi.Hub.Deliveries
import Kaigi.Hub.Disconnects
import Kaigi.Text.Suffixes
import Kaigi.Client.AnonymousEnvelopes
import Kaigi.Client.PercentText
import Kaigi.Client.UnshieldInputs
import Kaigi.Metering.Gaps
import Kaigi.Streaming.Task
import Kaigi.Client.ConferenceTelemetry
import Kaigi.Text.SocketAddr
import Kaigi.Text.SocketAddrRoundTrip
import Kaigi.Client.JoinLinkNormal
import Kaigi.Client.AnonymousChat
import Kaigi.Hub.AnonymousAssembly
import Kaigi.Hub.AnonymousDelivery
