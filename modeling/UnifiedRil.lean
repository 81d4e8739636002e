import UnifiedRil.Library.Runs
import UnifiedRil.Library.Bytes
import UnifiedRil.Protocol
import UnifiedRil.MessageTracker
import UnifiedRil.TrackerRuns
import UnifiedRil.TrackerConservation
import UnifiedRil.ConnectionLiveness
import UnifiedRil.Client
import UnifiedRil.ClientRuns
import UnifiedRil.ClientDispatch
import UnifiedRil.RepeatedResponses
import UnifiedRil.SynchronousCleanup
import UnifiedRil.Connection
import UnifiedRil.RequestFidelity
import UnifiedRil.EndToEndRouting
import UnifiedRil.Library.Layout
import UnifiedRil.Messages
import UnifiedRil.Library.CStrings
import UnifiedRil.Ril
import UnifiedRil.RilConversion
import UnifiedRil.RilHandlers
import UnifiedRil.RequestProcessors
import UnifiedRil.Library.Results
import UnifiedRil.ResponseFidelity
import UnifiedRil.RilHazards
import UnifiedRil.AdapterRuns
import UnifiedRil.AdapterCorrelation
import UnifiedRil.ConversionDomains
import UnifiedRil.RequestAssertions
import UnifiedRil.AnswerFaults
import UnifiedRil.RegistrationChain
import UnifiedRil.Framing
import UnifiedRil.VendorStrings
import UnifiedRil.ConnectionLifecycle
import UnifiedRil.SilenceAfterRelease
import UnifiedRil.Reconnection
import UnifiedRil.OrphanRequests
import UnifiedRil.Library.CallStacks
import UnifiedRil.ClientMutex
import UnifiedRil.RegistrationAnswers
import UnifiedRil.RegistrationStatus
import UnifiedRil.Library.Words
import UnifiedRil.SignalStrength
import UnifiedRil.AddressLists
import UnifiedRil.DataCallList
import UnifiedRil.NetworkScan
import UnifiedRil.DataCallNarrowing
import UnifiedRil.OperatorCodes
import UnifiedRil.PendingContexts
import UnifiedRil.TerminatedTexts
import UnifiedRil.FailureAnswers
import UnifiedRil.EntryPoints
import UnifiedRil.FailedCommands
import UnifiedRil.WrongHandles
import UnifiedRil.FailedInitialization
import UnifiedRil.SynchronousResult
import UnifiedRil.Deadlines
import UnifiedRil.DisconnectNotifications
import UnifiedRil.Library.Pairing
import UnifiedRil.RadioModeThreads
import UnifiedRil.ConnectorLifeCycle
import UnifiedRil.LookupUniqueness
import UnifiedRil.NumberParsing
import UnifiedRil.RequestHolders
import UnifiedRil.Quiescence
import UnifiedRil.SlotScans
import UnifiedRil.Library.Registers
import UnifiedRil.PreferenceRegister
import UnifiedRil.Library.Calls
import UnifiedRil.Library.FlatLocking
import UnifiedRil.RemoteCalls
import UnifiedRil.ServiceMutexes
import UnifiedRil.StartUp
import UnifiedRil.ProcessorTrees
import UnifiedRil.SynchronousConnector
import UnifiedRil.SynchronousCalls
import UnifiedRil.ByteStreams
