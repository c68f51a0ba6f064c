import Tr069d.Daemon.Reading
import Tr069d.Daemon.Turn

/-!
# Runs that can be computed

A `Scenario` fixes what the surroundings do as functions of the history, so that
a run of the daemon is a computation.  Its states are states of a run
(`Scenario.run`).

* `Scenario.state` is the state after a number of rounds, by evaluation.
* `deviceScenario` is a device that knows its ACS, on any scripts of the ACS; `noTask`,
  `downloadTask` and `failsOnce` are the scripts that several modules use.
-/

namespace Tr069d

open Effects

/-- Surroundings whose answers are functions of the history. -/
structure Scenario (σ : Type) where
  setup : Setup σ
  /-- The state of the platform at the start of a session. -/
  platformState : σ
  reading : List Entry → DaemonConfig → DaemonConfig × LogLevel
  /-- What is read can be read. -/
  reads : ∀ history target, ∃ transformer : LuaTransformer, transformer.ready = setup.ready ∧
    Exec anything (readConfig transformer setup.allowMockReboot target) ()
      (some (reading history target)) ()
  /-- What the ACS answers the next session. -/
  script : List Entry → List HttpResponse

namespace Scenario

variable {σ : Type} (scenario : Scenario σ)

/-- `informNow` is requested when the daemon would wait for ever. -/
def wakeUp (timeout : Option Nat) (flags : Flags) : Flags :=
  if timeout.isNone && !flags.wake then
    { flags with requested := Function.update flags.requested .informNow true }
  else flags

/-- The answers of the scenario. -/
def handler : (c : DaemonCall) → World → daemonCalls.Answer c × World
  | .stopRequested, world => (world.flags.stop, world)
  | .take request, world =>
      (world.flags.requested request, { world with flags := world.flags.lower request })
  | .wait timeout, world =>
      ((wakeUp timeout world.flags).wake,
        { flags := wakeUp timeout world.flags, history := .waited :: world.history })
  | .readConfig target, world =>
      (some (scenario.reading world.history target), { world with
        history := .reading (scenario.reading world.history target).1 :: world.history })
  | .session _ events, world =>
      let result := (CwmpSession.run scenario.setup.platform scenario.setup.xmlRead events
        (scenario.script world.history) ⟨scenario.platformState, 1, .idle⟩).1
      (result.1, { world with history := .session events result.2 result.1 :: world.history })
  | .persist write, world =>
      ((true, true), { world with history := .persisted write (true, true) :: world.history })
  | .download request _, world =>
      ({ commandKey := request.commandKey }, { world with
        history := .downloaded request { commandKey := request.commandKey } :: world.history })
  | .transferComplete _ result, world =>
      let reported := (CwmpSession.runTransferComplete scenario.setup.platform
        scenario.setup.xmlRead result (scenario.script world.history)
        ⟨scenario.platformState, 1, .idle⟩).1
      (reported.1, { world with
        history := .transferReported result reported.2 reported.1 :: world.history })
  | .reboot _ commandKey, world =>
      (true, { world with history := .rebooted commandKey true :: world.history })
  | .startServer _, world => (true, world)
  | .stopServer, world => ((), world)
  | .setState _, world => ((), world)
  | .sleep _, world => ((), world)
  | .log _ _, world => ((), world)
  | .assigned events, world => ((), { world with history := .assigned events :: world.history })

theorem raised_refl (flags : Flags) : flags.Raised flags :=
  ⟨id, fun _ => id⟩

theorem raised_wakeUp (timeout : Option Nat) (flags : Flags) :
    flags.Raised (wakeUp timeout flags) := by
  unfold wakeUp
  split
  · refine ⟨id, fun request hrequest => ?_⟩
    by_cases h : request = .informNow
    · simp [h]
    · simpa [Function.update_of_ne h] using hrequest
  · exact raised_refl flags

/-- Who waits without a timeout is woken. -/
theorem wake_wakeUp {timeout : Option Nat} (hnone : timeout = none) (flags : Flags) :
    (wakeUp timeout flags).wake = true := by
  subst hnone
  unfold wakeUp
  split
  · simp [Flags.wake]
  · rename_i hwake
    simpa using hwake

/-- What a program returns on a UCI store is one of the answers. -/
theorem exec_anything {α : Type} (program : SystemProg α) (store : Store) :
    Exec anything program () (program.run uciHandler store).1 () := by
  have hexec : Exec (fun c s answer s' => (answer, s') = uciHandler c s) program store
      (program.run uciHandler store).1 (program.run uciHandler store).2 :=
    exec_run (fun _ _ => rfl) program store
  exact hexec.map (f := fun _ => ()) fun _ _ _ _ _ => trivial

theorem exec_persist (write : FlagWrite) : Exec anything write.persist () (true, true) () := by
  have hexec := exec_anything write.persist (.ofCommitted fun _ => none)
  cases write <;> exact hexec

theorem handler_mem_daemonEnv (c : DaemonCall) (world : World) :
    daemonEnv scenario.setup c world (scenario.handler c world).1 (scenario.handler c world).2 := by
  cases c with
  | stopRequested => exact ⟨⟨raised_refl _, rfl⟩, [], rfl, rfl⟩
  | take request => exact ⟨⟨_, raised_refl _, rfl, rfl⟩, [], rfl, rfl⟩
  | wait timeout =>
      exact ⟨⟨raised_wakeUp _ _, rfl, fun hnone => wake_wakeUp hnone _⟩, _, rfl, rfl⟩
  | readConfig target =>
      exact ⟨raised_refl _, _, ⟨scenario.reads world.history target, rfl⟩, rfl⟩
  | session http events => exact ⟨raised_refl _, _, ⟨_, _, _, rfl, rfl⟩, rfl⟩
  | persist write => exact ⟨raised_refl _, _, ⟨exec_persist write, rfl⟩, rfl⟩
  | download request http => exact ⟨raised_refl _, _, ⟨rfl, rfl⟩, rfl⟩
  | transferComplete http result => exact ⟨raised_refl _, _, ⟨_, _, _, rfl, rfl⟩, rfl⟩
  | reboot mockMode commandKey => exact ⟨raised_refl _, _, ⟨fun _ => rfl, rfl⟩, rfl⟩
  | assigned events => exact ⟨raised_refl _, _, rfl, rfl⟩
  | _ => exact ⟨raised_refl _, [], rfl, rfl⟩

/-- The daemon and the world after the start and some rounds. -/
def state : Nat → Daemon × World
  | 0 => Daemon.start.run scenario.handler {}
  | n + 1 => (state n).1.round.run scenario.handler (state n).2

/-- They are states of a run, whose guard is met if it is met in the states before. -/
theorem run {guard : Daemon → List Entry → Prop} (n : Nat)
    (hguard : ∀ m < n, guard (scenario.state m).1 (scenario.state m).2.history) :
    DaemonRun scenario.setup guard (scenario.state n).1 (scenario.state n).2 := by
  induction n with
  | zero => exact .start (exec_run scenario.handler_mem_daemonEnv _ _)
  | succ n ih =>
      have hrun := ih fun m hm => hguard m (Nat.lt_succ_of_lt hm)
      exact .round hrun (hguard n (Nat.lt_succ_self n))
        (exec_run scenario.handler_mem_daemonEnv _ _)

theorem reached (n : Nat) : Reached scenario.setup (scenario.state n).1 (scenario.state n).2 :=
  scenario.run n fun _ _ => trivial

end Scenario

/-! ## A device with its URL set -/

/-- A device that knows its ACS, and has informed it or not. -/
def deviceStore (bootstrapDone : Bool) : Store :=
  .ofCommitted fun key =>
    if key = "tr69.mgmt_srv.url" then some "http://192.168.8.2:7547/"
    else if key = "tr69.settings.bootstrap_done" then some (if bootstrapDone then "1" else "0")
    else none

/-- What is read from it. -/
def deviceConfig (bootstrapDone : Bool) (target : DaemonConfig) : DaemonConfig :=
  { acsUrl := "http://192.168.8.2:7547/"
    periodicInformTime := "1970-01-01T00:00:00Z"
    mockMode := false
    bootstrapDone := bootstrapDone
    connectionRequest := { target.connectionRequest with
      bindAddress := "0.0.0.0", port := 7547, username := "", password := "", auth := "Digest" } }

theorem configFrom_deviceStore (bootstrapDone : Bool) (target : DaemonConfig) :
    configFrom (deviceStore bootstrapDone) false target = deviceConfig bootstrapDone target := by
  have hdefault : configFrom (deviceStore bootstrapDone) false {} =
      deviceConfig bootstrapDone {} := by
    cases bootstrapDone <;> decide
  exact configFrom_target hdefault target

def downloadXml : String :=
  "<Envelope><Body><Download><CommandKey>d</CommandKey></Download></Body></Envelope>"

def transferCompleteResponseXml : String :=
  "<Envelope><Body><TransferCompleteResponse/></Body></Envelope>"

/-- The trees of the messages of its ACS. -/
def deviceReader (xml : String) : Option (List XmlNode) :=
  let envelope (method : XmlNode) : Option (List XmlNode) :=
    some [.element "Envelope" none [.element "Body" none [method]]]
  if xml = downloadXml then
    envelope (.element "Download" none [.element "CommandKey" none [.text "d"]])
  else if xml = transferCompleteResponseXml then
    envelope (.element "TransferCompleteResponse" none [])
  else CwmpSession.sampleReader xml

/-- The run of such a device, on the scripts of an ACS. -/
def deviceScenario (script : List Entry → List HttpResponse) :
    Scenario (LuaTransformer × Store) where
  setup := ⟨CwmpSession.uciPlatform, deviceReader, true, false⟩
  platformState := CwmpSession.freshSession.platformState
  reading history target :=
    (deviceConfig (history.any fun entry => entry matches .persisted .bootstrapDone _) target,
      .info)
  reads history target := by
    refine ⟨⟨some plainEngine.toEngine, ""⟩, rfl, ?_⟩
    generalize (history.any fun entry => entry matches .persisted .bootstrapDone _) = done
    have hlevel : logLevelFrom (deviceStore done) = .info := by
      cases done <;> decide
    have hrun := run_readConfig plainEngine (deviceStore done) "" false target
    rw [configFrom_deviceStore, hlevel] at hrun
    have hexec := Scenario.exec_anything
      (readConfig ⟨some plainEngine.toEngine, ""⟩ false target) (deviceStore done)
    rwa [hrun] at hexec
  script := script

/-- An ACS without a task. -/
def noTask : List HttpResponse :=
  [{ status := 200, body := CwmpSession.informResponseXml }, { status := 204 }]

/-- An ACS that asks for a download. -/
def downloadTask : List HttpResponse :=
  [{ status := 200, body := CwmpSession.informResponseXml }, { status := 200, body := downloadXml },
   { status := 204 }]

/-- An ACS that cannot be reached the first time. -/
def failsOnce (history : List Entry) : List HttpResponse :=
  if history.any fun entry => entry matches .session .. then noTask else []

/-- The second session of such a device is a periodic one, and it succeeds. -/
theorem failsOnce_history : ∃ read ok exchanges outcome earlier,
    ((deviceScenario failsOnce).state 4).2.history =
      .reading read :: .persisted .bootstrapDone ok ::
        .session ["2 PERIODIC"] exchanges outcome :: earlier :=
  ⟨_, _, _, _, _, rfl⟩

end Tr069d
