import Tr069d.Clients.Serializable
import Tr069d.ConnectionRequest.Completeness
import Tr069d.ConnectionRequest.Delivery
import Tr069d.ConnectionRequest.Digest
import Tr069d.ConnectionRequest.HeaderScan
import Tr069d.ConnectionRequest.Lifecycle
import Tr069d.ConnectionRequest.Misdirected
import Tr069d.Daemon.Accounting
import Tr069d.Daemon.Commands
import Tr069d.Daemon.Deadlock
import Tr069d.Daemon.Flags
import Tr069d.Daemon.Listener
import Tr069d.Daemon.Lives
import Tr069d.Daemon.Overtaking
import Tr069d.Daemon.Provisioning
import Tr069d.Daemon.Reloads
import Tr069d.Daemon.Unsigned
import Tr069d.Daemon.WakeUp
import Tr069d.Http.Downloads
import Tr069d.Session.Faults
import Tr069d.Session.Machine
import Tr069d.Session.Outcome
import Tr069d.Transformer.LegalStore
import Tr069d.Transformer.LuaRuns
import Tr069d.Transformer.MockFile
import Tr069d.Transformer.Permutation
import Tr069d.Uci.Shell
