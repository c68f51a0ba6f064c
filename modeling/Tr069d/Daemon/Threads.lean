import Tr069d.Daemon.History
import Tr069d.Effects.Protocol

/-!
# The threads of the daemon

With ubus there are two threads: the daemon thread, which calls the transformer
for its RPCs, and the ubus thread, which handles one request after the other.
`LuaTransformer` runs every call under its mutex, and a `SetParameterValues` that
succeeds runs `ubus call tr69 reload` inside, which waits for the ubus thread.

* `daemonThread` and `ubusThread` are the two programs, and `threadEnv` is how the system
  answers their steps: a mutex that is held and a reload that is not answered are steps
  that do not happen.
* `inTransformer` takes the commands of the engine as steps of a thread, so that what a
  thread does under the mutex is the program of the engine itself.

The requests that other processes send over ubus are arbitrary; those of the daemon
are numbered, for it waits for the reply to its own.
-/

namespace Tr069d

open Effects

inductive Party
  | daemon
  | ubus
  deriving DecidableEq, Repr

/-- The methods of the ubus object. -/
inductive UbusMethod
  | reload
  | reconnect
  | informNow
  | status
  deriving DecidableEq, Repr

/-- A request that the ubus thread takes.  Those that `ubus call tr69 reload` of
the daemon thread sends are numbered. -/
structure UbusRequest where
  method : UbusMethod
  fromDaemon : Option Nat := none
  deriving DecidableEq, Repr

/-- The call of `ubus call tr69 reload` that the daemon thread made last. -/
inductive ReloadCall
  | idle
  | called
  | replied
  deriving DecidableEq, Repr

/-- The steps of a thread that others can see. -/
inductive ThreadCall
  /-- the `lock_guard` on `LuaTransformer::mutex_`, and its end -/
  | lock (party : Party)
  | unlock (party : Party)
  /-- a command of the engine -/
  | system (c : SystemCall)
  /-- `ubus call tr69 reload`: the request, and its reply -/
  | callReload
  | awaitReload
  /-- `uloop`: the next request -/
  | poll
  /-- `requestReload` and its like -/
  | raise (request : Request)
  /-- the part of `status` that copies `state_` and `config_` -/
  | copyStatus
  /-- `ubus_send_reply` -/
  | reply (request : UbusRequest)

abbrev threadCalls : Signature where
  Call := ThreadCall
  Answer
    | .lock _ => Unit
    | .unlock _ => Unit
    | .system c => system.Answer c
    | .callReload => Unit
    | .awaitReload => Bool
    | .poll => UbusRequest
    | .raise _ => Unit
    | .copyStatus => Unit
    | .reply _ => Unit

/-- A program of a thread. -/
abbrev ThreadProg (α : Type) : Type := Prog threadCalls α

/-! ## The daemon thread -/

/-- The command of `notify_runtime_reload`. -/
def reloadCommand (ubusBin : String) : String :=
  ubusBin ++ " call tr69 reload '{}' >/dev/null 2>&1"

/-- The commands of the engine, as steps of a thread. -/
def inTransformer {α : Type} (ubusBin : String) : SystemProg α → ThreadProg α
  | .done value => .done value
  | .call (.executeOk command) rest =>
      if command = reloadCommand ubusBin then
        .call .callReload fun _ => .call .awaitReload fun ok => inTransformer ubusBin (rest ok)
      else .call (.system (.executeOk command)) fun ok => inTransformer ubusBin (rest ok)
  | .call c rest => .call (.system c) fun answer => inTransformer ubusBin (rest answer)

/-- What the RPC handler and `readConfig` call. -/
inductive TransformerCall
  | getParameterValues (paths : List String) (revealSecrets : Bool)
  | setParameterValues (values : List ParameterValue) (parameterKey : String)
  | getParameterNames (path : String)
  deriving DecidableEq, Repr

/-- The call, and the transformer after it. -/
def TransformerCall.run (transformer : LuaTransformer) : TransformerCall → SystemProg LuaTransformer
  | .getParameterValues paths revealSecrets => do
      let _ ← transformer.getParameterValues paths revealSecrets
      return transformer
  | .setParameterValues values parameterKey => do
      let (_, transformer) ← transformer.setParameterValues values parameterKey
      return transformer
  | .getParameterNames path => do
      let _ ← transformer.getParameterNames path
      return transformer

/-- A call under the mutex. -/
def locked {α : Type} (ubusBin : String) (party : Party) (program : SystemProg α) :
    ThreadProg α := do
  @Prog.ask threadCalls (.lock party)
  let result ← inTransformer ubusBin program
  @Prog.ask threadCalls (.unlock party)
  return result

/-- The daemon thread, which makes these calls. -/
def daemonThread (ubusBin : String) : LuaTransformer → List TransformerCall → ThreadProg Unit
  | _, [] => return ()
  | transformer, c :: rest => do
      let transformer ← locked ubusBin .daemon (c.run transformer)
      daemonThread ubusBin transformer rest

/-! ## The ubus thread -/

/-- `Tr069Daemon::status` -/
def status (ubusBin : String) (transformer : LuaTransformer) : ThreadProg Unit := do
  @Prog.ask threadCalls .copyStatus
  let _ ← locked ubusBin .ubus
    (transformer.get "Device.ManagementServer.ConnectionRequestURL")
  return ()

/-- The handlers of `UbusServer`. -/
def handleUbus (ubusBin : String) (transformer : LuaTransformer) (request : UbusRequest) :
    ThreadProg Unit := do
  match request.method with
  | .reload => @Prog.ask threadCalls (.raise .reload)
  | .reconnect => @Prog.ask threadCalls (.raise .reconnect)
  | .informNow => @Prog.ask threadCalls (.raise .informNow)
  | .status => status ubusBin transformer
  @Prog.ask threadCalls (.reply request)

/-- The ubus thread, which handles a number of requests. -/
def ubusThread (ubusBin : String) (transformer : LuaTransformer) : Nat → ThreadProg Unit
  | 0 => return ()
  | n + 1 => do
      let request ← @Prog.ask threadCalls .poll
      handleUbus ubusBin transformer request
      ubusThread ubusBin transformer n

/-! ## What they share -/

structure ThreadState where
  /-- who holds the mutex of the transformer -/
  owner : Option Party := none
  reload : ReloadCall := .idle
  /-- the number of calls of `ubus call tr69 reload` -/
  calls : Nat := 0
  flags : Flags := {}
  store : Store

/-- How the system answers a step.  A mutex that is held does not answer. -/
def threadEnv : Env threadCalls ThreadState
  | .lock party, s, _, s' => s.owner = none ∧ s' = { s with owner := some party }
  | .unlock _, s, _, s' => s' = { s with owner := none }
  | .system c, s, answer, s' => ∃ store,
      uciEnv (fun _ => True) c s.store answer store ∧ s' = { s with store := store }
  | .callReload, s, _, s' => s' = { s with reload := .called, calls := s.calls + 1 }
  -- the command may give up
  | .awaitReload, s, ok, s' =>
      (s.reload = .replied ∨ ok = false) ∧ s' = { s with reload := .idle }
  | .poll, s, request, s' => s' = s ∧ ∀ n, request.fromDaemon = some n →
      request.method = .reload ∧ n ≤ s.calls
  | .raise request, s, _, s' =>
      s' = { s with flags := { s.flags with
        requested := Function.update s.flags.requested request true } }
  | .copyStatus, s, _, s' => s' = s
  | .reply request, s, _, s' =>
      s' = if request.fromDaemon = some s.calls ∧ s.reload = .called then
        { s with reload := .replied } else s

/-- The two threads, before they made a step. -/
def startThreads (ubusBin : String) (transformer : LuaTransformer) (calls : List TransformerCall)
    (requests : Nat) (store : Store) : Pool Party threadCalls Unit ThreadState where
  threads
    | .daemon => .running (daemonThread ubusBin transformer calls)
    | .ubus => .running (ubusThread ubusBin transformer requests)
  state := { store := store }

end Tr069d
