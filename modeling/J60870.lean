import J60870.RoundTrip
import J60870.Connection.Methods
import J60870.Framing
import J60870.Lib.Run
import J60870.Connection.Step
import J60870.Connection.Rules
import J60870.Connection.Windows
import J60870.Connection.Acknowledgement
import J60870.Connection.Delivery
import J60870.Connection.Registration
import J60870.Connection.Sending
import J60870.Connection.Stopping
import J60870.Connection.Pending
import J60870.Lib.SlidingWindow
import J60870.Connection.Unwrapped
import J60870.Connection.Peers
import J60870.Connection.SendingSide
import J60870.Connection.Supervision
import J60870.Lib.Monitor
import J60870.Connection.Senders
import J60870.Connection.FatalErrors
import J60870.Connection.Timers
import J60870.Connection.Listeners
import J60870.Connection.Closing
import J60870.Connection.Confirmations
import J60870.Connection.Unstarted
import J60870.Connection.Stream
import J60870.Ie.Spelling
import J60870.Reencoding
import J60870.StructureQualifier
import J60870.ElementCounts
import J60870.Connection.Directory
import J60870.Decoded
import J60870.Connection.Mirroring
import J60870.Internal.SerialExecution
import J60870.Lib.Holders
import J60870.ServerThread
import J60870.SharedThreadPool
import J60870.TimerThread
import J60870.TimerThread.Duplicates
import J60870.TimerThread.Oversleeping
import J60870.Connection.StartUp
import J60870.Connection.SafeStart
import J60870.Connection.ReceivingSide
import J60870.Connection.Interleaving
import J60870.CommonBuilder
import J60870.Malformed
import J60870.SharedThreadPool.Counter
import J60870.Emission
import J60870.ReservedTypes
import J60870.Ie.Time
import J60870.Ie.ShortTimes
import J60870.Ie.Century
import J60870.Ie.Timestamp
import J60870.Ie.Constructors
import J60870.Ie.Faithful
import J60870.Connection.Octets
import J60870.Connection.Trace
import J60870.Connection.Session
import J60870.Connection.Ungranted
import J60870.Connection.Granting
import J60870.Connection.Progress
import J60870.Connection.Watching
import J60870.Connection.Commands
import J60870.Connection.Dialogue
import J60870.SampleServer
import J60870.Connection.Reasons
import J60870.Connection.Ending
import J60870.Connection.Solicited
import J60870.Connection.Tally
import J60870.Connection.Agreement
import J60870.TimerThread.Punctual
