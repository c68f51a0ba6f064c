import Tr069d.Daemon.Loop
import Tr069d.Effects.Trace
import Tr069d.Session.Dialogue

/-!
# Runs of the daemon

The surroundings of the daemon thread: the flags that other threads raise, the
UCI store and the transformer that answer `readConfig`, and the ACS that answers
the sessions with any script.  What happens is recorded in a history, the newest
entry first; `Turn` says what one round of the loop adds to it.

* `Setup` and `Flags` are what the surroundings consist of, and `Recorded` says what they
  may answer to a call and which entry that adds.
* `daemonEnv` answers with the flags and the history, `historyEnv` forgets the flags.
* `DaemonRun` is a run between two rounds, whose rounds may be restricted by a guard on
  the state in which they start.
-/

namespace Tr069d

open Effects

/-- What happened. -/
inductive Entry
  /-- `readConfig` read this configuration. -/
  | reading (config : DaemonConfig)
  /-- A session of `CwmpSession::run` with its Inform events. -/
  | session (events : List String) (exchanges : List Exchange) (outcome : SessionOutcome)
  | persisted (write : FlagWrite) (ok : Bool × Bool)
  | downloaded (request : DownloadRequest) (result : TransferResult)
  /-- A session of `CwmpSession::runTransferComplete`. -/
  | transferReported (result : TransferResult) (exchanges : List Exchange) (ok : Bool)
  | rebooted (commandKey : String) (scheduled : Bool)
  /-- A wait of `waitForNextInform`. -/
  | waited
  | assigned (events : List String)
  deriving DecidableEq, Repr

/-- It neither opens a session, nor waits, nor assigns the list of events. -/
def Entry.isAside : Entry → Bool
  | .session .. => false
  | .waited => false
  | .assigned _ => false
  | _ => true

/-- It is aside and stores none of the flags that a success changes. -/
def Entry.isFollowUp : Entry → Bool
  | .persisted .bootstrapDone _ => false
  | .persisted .clearPendingReboot _ => false
  | entry => entry.isAside

/-! ## The surroundings -/

/-- What the daemon runs on. -/
structure Setup (σ : Type) where
  platform : Platform σ
  xmlRead : XmlReader
  /-- `transformer_.ready()`, which never changes. -/
  ready : Bool
  allowMockReboot : Bool

/-- The atomic flags. -/
structure Flags where
  stop : Bool := false
  requested : Request → Bool := fun _ => false

/-- Other threads only raise flags. -/
def Flags.Raised (before after : Flags) : Prop :=
  (before.stop = true → after.stop = true) ∧
    ∀ request, before.requested request = true → after.requested request = true

/-- `exchange(false)` -/
def Flags.lower (flags : Flags) (request : Request) : Flags :=
  { flags with requested := Function.update flags.requested request false }

/-- The condition that `waitForNextInform` waits for. -/
def Flags.wake (flags : Flags) : Bool :=
  flags.stop || flags.requested .connection || flags.requested .reload ||
    flags.requested .reconnect || flags.requested .informNow

/-- How the flags answer a call, while other threads may raise some. -/
def Flags.Answer : (c : DaemonCall) → Flags → daemonCalls.Answer c → Flags → Prop
  | .stopRequested, flags, answer, flags' => flags.Raised flags' ∧ answer = flags'.stop
  | .take request, flags, answer, flags' => ∃ raised, flags.Raised raised ∧
      answer = raised.requested request ∧ flags' = raised.lower request
  | .wait timeout, flags, answer, flags' => flags.Raised flags' ∧ answer = flags'.wake ∧
      (timeout = none → answer = true)
  | _, flags, _, flags' => flags.Raised flags'

/-- A program may be answered in any way. -/
def anything : Env system Unit := fun _ _ _ _ => True

variable {σ : Type} (setup : Setup σ)

/-- The answers that the surroundings may give to a call, and what that adds to
the history. -/
def Recorded : (c : DaemonCall) → daemonCalls.Answer c → List Entry → Prop
  | .readConfig target, answer, entries =>
      (∃ transformer : LuaTransformer, transformer.ready = setup.ready ∧
        Exec anything (readConfig transformer setup.allowMockReboot target) () answer ()) ∧
      entries = (answer.map fun read => Entry.reading read.1).toList
  | .session _ events, outcome, entries => ∃ s script exchanges,
      (CwmpSession.run setup.platform setup.xmlRead events script ⟨s, 1, .idle⟩).1 =
        (outcome, exchanges) ∧
      entries = [.session events exchanges outcome]
  | .persist write, ok, entries =>
      Exec anything write.persist () ok () ∧ entries = [.persisted write ok]
  | .download request _, result, entries =>
      result.commandKey = request.commandKey ∧ entries = [.downloaded request result]
  | .transferComplete _ result, ok, entries => ∃ s script exchanges,
      (CwmpSession.runTransferComplete setup.platform setup.xmlRead result script
        ⟨s, 1, .idle⟩).1 = (ok, exchanges) ∧
      entries = [.transferReported result exchanges ok]
  | .reboot mockMode commandKey, scheduled, entries =>
      (mockMode = true → scheduled = true) ∧ entries = [.rebooted commandKey scheduled]
  | .wait _, _, entries => entries = [.waited]
  | .assigned events, _, entries => entries = [.assigned events]
  | _, _, entries => entries = []

structure World where
  flags : Flags := {}
  history : List Entry := []

/-- The surroundings of the daemon thread. -/
def daemonEnv : Env daemonCalls World := fun c world answer world' =>
  world.flags.Answer c answer world'.flags ∧
    ∃ entries, Recorded setup c answer entries ∧ world'.history = entries ++ world.history

/-- The same, seen through the history alone. -/
def historyEnv : Env daemonCalls (List Entry) := fun c history answer history' =>
  ∃ entries, Recorded setup c answer entries ∧ history' = entries ++ history

/-- The daemon and the world between two rounds of a run in which every round
starts in a state that meets `guard`. -/
inductive DaemonRun (guard : Daemon → List Entry → Prop) : Daemon → World → Prop
  | start {daemon world} (hexec : Exec (daemonEnv setup) Daemon.start {} daemon world) :
      DaemonRun guard daemon world
  | round {daemon world daemon' world'} (hrun : DaemonRun guard daemon world)
      (hguard : guard daemon world.history)
      (hexec : Exec (daemonEnv setup) daemon.round world daemon' world') :
      DaemonRun guard daemon' world'

/-- The daemon and the world between two rounds of any run. -/
abbrev Reached : Daemon → World → Prop := DaemonRun setup fun _ _ => True

end Tr069d
