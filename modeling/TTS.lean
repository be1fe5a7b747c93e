import TTS.Transition
import TTS.EventQueue
import TTS.Monitor
import TTS.Manager
import TTS.ManagerLock
import TTS.Registry
import TTS.Reservation
import TTS.Convergence
import TTS.SpeakerThread
import TTS.QueueWindow
import TTS.Stages
import TTS.Ledger
import TTS.SpeechLedger
import TTS.Abort
import TTS.Client
import TTS.ClientSessions
import TTS.Mirror
import TTS.Reporting
import TTS.ClientGate
import TTS.JsonClient
import TTS.SpeechReports
import TTS.Pausing
import TTS.EngineRuns
import TTS.ResourceRequests
import TTS.OpenPolicy
import TTS.CallbackWrappers
import TTS.SessionCalls
import TTS.Connections
import TTS.FlagRuns
import TTS.Decimals
import TTS.ConfigurationCodec
import TTS.ConfigurationFile
import TTS.ConfigurationReads
import TTS.ClientConfiguration
import TTS.Overlay
import TTS.CachedConfiguration
import TTS.ClientCalls
import TTS.SpeechEndPoints
import TTS.AudioWait
import TTS.SpokenToEnd
import TTS.Cancels
import TTS.SpeechQueries
import TTS.MessageHandler
import TTS.CleanUp
import TTS.PunctuationCursor
import TTS.IsolatedSymbols
import TTS.Query
import TTS.UrlParameters
import TTS.SpeechStates
import TTS.PipelineUpdates
import TTS.Changes
import TTS.DeferredListeners
import TTS.ConfigurationUpdates
import TTS.Numerals
import TTS.NumeralReads
import TTS.NumericSettings
import TTS.SplitLoop
import TTS.CancelledIds
import TTS.Voices
import TTS.IniFile
import TTS.ActivityQueries
import TTS.Service
import TTS.Subscriptions
import TTS.Budget
import TTS.RestartBudget
import TTS.Mutex
import TTS.AsyncWorker
import TTS.AsyncWorkerRuns
import TTS.LockOrder
import TTS.EngineLocks
import TTS.SpeechOrder
import TTS.SpeechCallbacks
import TTS.CondVar
import TTS.SpeakerSleep
import TTS.SpeechEvents
import TTS.PipelineWait
import TTS.StartupThreads
import TTS.StartupRuns
import TTS.StartupEnd
import TTS.SpeakerProgress
import TTS.MessagePipe
import TTS.LastTurn
import TTS.ServiceLocks
import TTS.ClientLocks
import TTS.ConnectionCalls
import TTS.ThunderClients
import TTS.ExtendedRequests
import TTS.VoiceChanges
import TTS.JsonEnabled
import TTS.Launcher
import TTS.Deferred
import TTS.CachedSettings
