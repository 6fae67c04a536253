import Pywire.Agreement
import Pywire.BindFormats
import Pywire.Books
import Pywire.ChannelBinding
import Pywire.Cleanup
import Pywire.CloseErrors
import Pywire.Conn
import Pywire.DataRow
import Pywire.Discipline
import Pywire.EmptyQuery
import Pywire.Errors
import Pywire.Extended
import Pywire.Lib.Base64
import Pywire.Lib.Decimal
import Pywire.Lib.Ledger
import Pywire.Lib.Prog
import Pywire.Lib.Text
import Pywire.Lib.Twin
import Pywire.Lifecycle
import Pywire.Orphan
import Pywire.Query
import Pywire.Scram.Client
import Pywire.Scram.ClientFinal
import Pywire.Scram.ClientFirst
import Pywire.Scram.Exchange
import Pywire.Scram.Verifier
import Pywire.ScramGate
import Pywire.Serve
import Pywire.Server
import Pywire.Serving
import Pywire.SessionGate
import Pywire.Shutdown
import Pywire.Sweep
import Pywire.UnknownUser
import Pywire.WireNames
import Pywire.Lib.Unfold
import Pywire.Stranded
import Pywire.Stream
import Pywire.ErrorClasses
import Pywire.Lib.Wire
import Pywire.Messages
import Pywire.MessageClasses
import Pywire.Lib.Shield
import Pywire.ServeTask
import Pywire.Lib.Pool
import Pywire.Native
import Pywire.Abort
import Pywire.Lifetime
import Pywire.Lib.Maintain
import Pywire.Phases
import Pywire.Dialogue
import Pywire.Identity
import Pywire.Framing
import Pywire.Crossings
import Pywire.Lib.Simulation
import Pywire.Catalogue
import Pywire.Upkeep
import Pywire.Requests
import Pywire.Replay
import Pywire.Lib.Returns
import Pywire.Login
