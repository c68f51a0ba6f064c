import Tr069d.Daemon.Calls

/-!
# The listener for Connection Requests

`restartConnectionRequestServer` stops the listener and builds a new one from the
configuration, and `refreshConfig` calls it when the comparison with the previous
configuration finds a difference.  The state here is the listener alone: the
store may contain anything, and every start may fail.

* `wp_restartConnectionRequestServer` and `wp_refreshConfig_inStep` are the two functions,
  and `inStep_of_listenerRun` any sequence of them.
* `wp_start_listening` and `wp_round_listening` show that a run of the daemon is such a
  sequence, from which `LoopRun.inStep` follows.

To be in step means that the listener is built from the configuration, is not there
because the configuration has it disabled, or could not be started with it.
-/

namespace Tr069d

open Effects Daemon

structure Listener where
  /-- What `connectionServer_` was built from, if there is one. -/
  current : Option ConnectionRequestConfig := none
  /-- The last start, and whether it succeeded. -/
  lastStart : Option (ConnectionRequestConfig × Bool) := none
  deriving DecidableEq, Repr

/-- What the calls do to the listener; their answers are arbitrary. -/
def listenerEnv : Env daemonCalls Listener
  | .stopServer, listener, _, listener' => listener' = { listener with current := none }
  | .startServer config, _, started, listener' =>
      listener' = ⟨if started then some config else none, some (config, started)⟩
  | _, listener, _, listener' => listener' = listener

/-- The listener is the one of the configuration. -/
structure InStep (config : DaemonConfig) (listener : Listener) : Prop where
  built : ∀ current, listener.current = some current → current = config.connectionRequest
  disabled : config.connectionRequestEnable = false → listener.current = none
  failed : config.connectionRequestEnable = true → listener.current = none →
    listener.lastStart = some (config.connectionRequest, false)

/-- `run` changes the two flags that it stores. -/
def editFlags (bootstrapDone pendingRebootEvent : Bool) (config : DaemonConfig) : DaemonConfig :=
  { config with bootstrapDone := bootstrapDone, pendingRebootEvent := pendingRebootEvent }

/-- What can come after a restart: refreshes, and changes of the flags that `run` stores. -/
inductive ListenerRun : DaemonConfig → Listener → Prop
  | restart {config listener listener'}
      (hexec : Exec listenerEnv (restartConnectionRequestServer config) listener () listener') :
      ListenerRun config listener'
  | edit {config listener} (bootstrapDone pendingRebootEvent : Bool)
      (hrun : ListenerRun config listener) :
      ListenerRun (editFlags bootstrapDone pendingRebootEvent config) listener
  | refresh {config listener config' listener'} {changed : Bool}
      (hrun : ListenerRun config listener)
      (hexec : Exec listenerEnv (refreshConfig false config) listener (config', changed)
        listener') : ListenerRun config' listener'

/-! ## What keeps them in step -/

/-- The call leaves the listener alone. -/
def LeavesListener : DaemonCall → Prop
  | .stopServer => False
  | .startServer _ => False
  | _ => True

theorem connectionRequestEqual_iff {a b : ConnectionRequestConfig} :
    connectionRequestEqual a b = true ↔ a = b := by
  cases a
  cases b
  simp [connectionRequestEqual, and_assoc]

section Steps

variable {config previous : DaemonConfig} {listener : Listener} {α : Type}

/-- Programs that leave the listener alone. -/
theorem wp_of_leavesListener {program : DaemonProg α} {post : α → Listener → Prop}
    (h : program.Calls LeavesListener) (hpost : ∀ value, post value listener) :
    wp listenerEnv (fun _ => True) program post listener := by
  refine wp_of_calls (I := (· = listener)) h ?_ rfl ?_
  · rintro c s answer s' hc rfl hcall
    cases c with
    | stopServer => exact hc.elim
    | startServer => exact hc.elim
    | _ => exact hcall
  · rintro value _ rfl
    exact hpost value

theorem leavesListener_log (level : LogLevel) (message : String) :
    LeavesListener (.log level message) := trivial

theorem InStep.of_fields (h : InStep previous listener)
    (henable : config.connectionRequestEnable = previous.connectionRequestEnable)
    (hrequest : config.connectionRequest = previous.connectionRequest) :
    InStep config listener where
  built current hcurrent := (h.built current hcurrent).trans hrequest.symm
  disabled hdisabled := h.disabled (henable.symm.trans hdisabled)
  failed henabled hnone := by
    rw [hrequest]
    exact h.failed (henable.symm.trans henabled) hnone

/-- A restart builds the listener of the configuration, or tries to. -/
theorem wp_restartConnectionRequestServer {post : Unit → Listener → Prop}
    (hpost : ∀ listener', InStep config listener' → post () listener') :
    wp listenerEnv (fun _ => True) (restartConnectionRequestServer config) post listener := by
  unfold restartConnectionRequestServer
  refine wp_bind.mpr (wp_of_leavesListener (calls_log leavesListener_log _ _) fun _ => ?_)
  refine wp_bind.mpr (wp_ask.mpr ⟨trivial, ?_⟩)
  rintro ⟨⟩ _ rfl
  split
  · rename_i hdisabled
    have hoff : config.connectionRequestEnable = false := by simpa using hdisabled
    refine wp_of_leavesListener (calls_log leavesListener_log _ _) fun _ => hpost _ ?_
    exact ⟨nofun, fun _ => rfl, fun henabled => absurd (hoff.symm.trans henabled) nofun⟩
  · rename_i henabled
    have hon : config.connectionRequestEnable = true := by simpa using henabled
    refine wp_bind.mpr (wp_ask.mpr ⟨trivial, ?_⟩)
    rintro started _ rfl
    cases started with
    | true =>
        refine hpost _ ⟨?_, fun hoff => absurd (hon.symm.trans hoff) nofun, nofun⟩
        rintro _ ⟨⟩
        rfl
    | false =>
        refine wp_of_leavesListener (calls_log leavesListener_log _ _) fun _ => hpost _ ?_
        exact ⟨nofun, fun _ => rfl, fun _ _ => rfl⟩

/-- A refresh without a restart has found the same configuration of the listener. -/
theorem wp_refreshConfig_inStep (h : InStep previous listener) :
    wp listenerEnv (fun _ => True) (refreshConfig false previous)
      (fun result listener' => InStep result.1 listener') listener := by
  unfold refreshConfig
  refine wp_bind.mpr (wp_ask.mpr ⟨trivial, ?_⟩)
  intro answer listener' hread
  obtain rfl : listener = listener' := hread.symm
  cases answer with
  | none => exact h
  | some read =>
      refine wp_bind.mpr (wp_of_leavesListener (calls_preserveUrl leavesListener_log _ _ _)
        fun updated => ?_)
      have hlog : ∀ {listener : Listener} {changed : Bool}, InStep updated listener →
          wp listenerEnv (fun _ => True)
            (logUpdate false previous updated >>= fun _ => pure (updated, changed))
            (fun result listener' => InStep result.1 listener') listener := by
        intro listener changed hupdated
        exact wp_bind.mpr
          (wp_of_leavesListener (calls_logUpdate leavesListener_log _ _ _) fun _ => hupdated)
      dsimp only
      -- without a difference in the two fields the listener stays, and it fits the new
      -- configuration
      by_cases hsame : updated.connectionRequestEnable = previous.connectionRequestEnable ∧
          updated.connectionRequest = previous.connectionRequest
      · obtain ⟨henable, hrequest⟩ := hsame
        have hupdated : InStep updated listener := h.of_fields henable hrequest
        have hequal := connectionRequestEqual_iff.mpr hrequest
        simp only [henable, hequal, bne_self_eq_false, Bool.not_true, Bool.or_self,
          Bool.and_false, Bool.false_eq_true, if_false]
        split
        · exact hlog hupdated
        · exact hupdated
      · have hdiffers : (!false && (updated.connectionRequestEnable !=
            previous.connectionRequestEnable ||
            !connectionRequestEqual updated.connectionRequest previous.connectionRequest)) =
              true := by
          rw [← connectionRequestEqual_iff] at hsame
          simpa [imp_iff_not_or] using hsame
        -- with one it is stopped, and started again from what was read
        rw [if_pos hdiffers]
        refine wp_bind.mpr (wp_restartConnectionRequestServer fun listener' hupdated => ?_)
        split
        · exact hlog hupdated
        · exact hupdated

end Steps

/-- A restart brings them in step, and a refresh keeps them so. -/
theorem ListenerRun.inStep {config : DaemonConfig} {listener : Listener}
    (hrun : ListenerRun config listener) : InStep config listener := by
  induction hrun with
  | @restart config listener listener' hexec =>
      have hrestart : wp listenerEnv (fun _ => True) (restartConnectionRequestServer config)
          (fun _ => InStep config) listener :=
        wp_restartConnectionRequestServer fun _ hinStep => hinStep
      exact hexec.of_wp hrestart
  | edit _ _ _ ih => exact ih.of_fields rfl rfl
  | refresh _ hexec ih => exact hexec.of_wp (wp_refreshConfig_inStep ih)

/-- After every refresh the listener is in step with the configuration. -/
theorem inStep_of_listenerRun {config : DaemonConfig} {listener : Listener}
    (hrun : ListenerRun config listener) : InStep config listener :=
  hrun.inStep

/-- Its port is taken at the start, and the store is read once more after a session. -/
theorem inStep_portTaken : InStep { bootstrapDone := true } ⟨none, some ({}, false)⟩ := by
  have hfailed : listenerEnv (.startServer {}) {} false ⟨none, some ({}, false)⟩ := rfl
  have hrestart : Exec listenerEnv (restartConnectionRequestServer {}) {} ()
      ⟨none, some ({}, false)⟩ := by
    iterate 2 refine @Exec.call _ _ _ _ _ _ _ _ _ () _ rfl ?_
    exact .call hfailed (@Exec.call _ _ _ _ _ _ _ _ _ () _ rfl .done)
  have hread : listenerEnv (.readConfig { bootstrapDone := true }) ⟨none, some ({}, false)⟩
      (some ({ bootstrapDone := true }, .info)) ⟨none, some ({}, false)⟩ := rfl
  have hrefresh : Exec listenerEnv (refreshConfig false { bootstrapDone := true })
      ⟨none, some ({}, false)⟩ ({ bootstrapDone := true }, false) ⟨none, some ({}, false)⟩ :=
    .call hread .done
  exact inStep_of_listenerRun (((ListenerRun.restart hrestart).edit true false).refresh hrefresh)

/-! ## The loop -/

/-- Between two rounds: the configuration and the listener are those of such a sequence. -/
def Listening (daemon : Daemon) (listener : Listener) : Prop :=
  (∃ code, daemon.place = .stopped code) ∨ ListenerRun daemon.config listener

section Loop

variable {config : DaemonConfig} {events : List String} {listener : Listener}

theorem wp_leavesListener_ask {c : DaemonCall} {post : daemonCalls.Answer c → Listener → Prop}
    (hc : LeavesListener c) (hpost : ∀ answer, post answer listener) :
    wp listenerEnv (fun _ => True) (Prog.ask c) post listener :=
  wp_of_leavesListener (Prog.calls_ask hc) hpost

theorem wp_refreshConfig_listenerRun (hrun : ListenerRun config listener) :
    wp listenerEnv (fun _ => True) (refreshConfig false config)
      (fun result listener' => ListenerRun result.1 listener') listener :=
  wp_mono (wp_exec _ _) fun _ _ hexec => .refresh hrun hexec

theorem wp_recordBootstrap_listenerRun {outcome : SessionOutcome}
    (hrun : ListenerRun config listener) :
    wp listenerEnv (fun _ => True) (recordBootstrap outcome config) ListenerRun listener := by
  unfold recordBootstrap
  split
  · exact wp_bind.mpr (wp_leavesListener_ask trivial fun _ =>
      hrun.edit true config.pendingRebootEvent)
  · exact hrun

theorem wp_clearPendingReboot_listenerRun {outcome : SessionOutcome}
    (hrun : ListenerRun config listener) :
    wp listenerEnv (fun _ => True) (clearPendingReboot outcome events config) ListenerRun
      listener := by
  unfold clearPendingReboot
  split
  · exact wp_bind.mpr (wp_leavesListener_ask trivial fun _ =>
      hrun.edit config.bootstrapDone false)
  · exact hrun

theorem wp_runDownload_listenerRun {outcome : SessionOutcome} {http : HttpConfig}
    (hrun : ListenerRun config listener) :
    wp listenerEnv (fun _ => True) (runDownload outcome http config) ListenerRun listener := by
  unfold runDownload
  cases outcome.download with
  | none => exact hrun
  | some request =>
      refine wp_bind.mpr (wp_leavesListener_ask trivial fun transfer => ?_)
      refine wp_bind.mpr (wp_leavesListener_ask trivial fun reported => ?_)
      exact wp_bind.mpr (wp_refreshConfig_listenerRun hrun)

theorem wp_runReboot_listenerRun {outcome : SessionOutcome} (hrun : ListenerRun config listener) :
    wp listenerEnv (fun _ => True) (runReboot outcome config)
      (fun result => ListenerRun result.1) listener := by
  unfold runReboot
  split
  · exact hrun
  · have hrebooted := hrun.edit config.bootstrapDone true
    refine wp_bind.mpr (wp_leavesListener_ask trivial fun _ => ?_)
    refine wp_bind.mpr (wp_leavesListener_ask trivial fun scheduled => ?_)
    refine wp_bind.mpr (wp_leavesListener_ask trivial fun _ => ?_)
    split
    · refine wp_bind.mpr (wp_mono (wp_refreshConfig_listenerRun hrebooted) ?_)
      intro result listener' hresult
      exact wp_bind.mpr (wp_leavesListener_ask trivial fun _ => hresult)
    · exact hrebooted

theorem wp_stop_listening :
    wp listenerEnv (fun _ => True) (stop config events) Listening listener := by
  refine wp_bind.mpr (wp_ask.mpr ⟨trivial, fun _ listener' _ => ?_⟩)
  exact wp_bind.mpr (wp_leavesListener_ask trivial fun _ => Or.inl ⟨0, rfl⟩)

theorem wp_inform_listening (hrun : ListenerRun config listener) :
    wp listenerEnv (fun _ => True) (inform config events) Listening listener := by
  unfold inform
  refine wp_bind.mpr (wp_leavesListener_ask trivial fun _ => ?_)
  refine wp_bind.mpr (wp_leavesListener_ask trivial fun outcome => ?_)
  refine wp_bind.mpr (wp_leavesListener_ask trivial fun _ => ?_)
  refine wp_bind.mpr (wp_mono (wp_recordBootstrap_listenerRun hrun) fun config₁ _ h₁ => ?_)
  refine wp_bind.mpr (wp_mono (wp_clearPendingReboot_listenerRun h₁) fun config₂ _ h₂ => ?_)
  refine wp_bind.mpr (wp_mono (wp_runDownload_listenerRun h₂) fun config₃ _ h₃ => ?_)
  refine wp_bind.mpr (wp_mono (wp_runReboot_listenerRun h₃) ?_)
  rintro ⟨config₄, mockRebooted⟩ _ h₄
  cases mockRebooted with
  | true => exact Or.inr h₄
  | false =>
      refine wp_bind.mpr (wp_leavesListener_ask trivial fun reloadDuringSession => ?_)
      refine wp_bind.mpr (wp_mono (wp_refreshConfig_listenerRun h₄) ?_)
      rintro ⟨config₅, changedAfterSession⟩ _ h₅
      dsimp only
      split
      · exact Or.inr h₅
      · refine wp_bind.mpr (wp_leavesListener_ask trivial fun stopped => ?_)
        split
        · exact wp_stop_listening
        · exact Or.inr h₅

theorem wp_wakeReason_listenerRun {signaled : Bool} (hrun : ListenerRun config listener) :
    wp listenerEnv (fun _ => True) (wakeReason config signaled)
      (fun result => ListenerRun result.2) listener := by
  unfold wakeReason
  refine wp_bind.mpr (wp_leavesListener_ask trivial fun stopped => ?_)
  split
  · exact hrun
  refine wp_bind.mpr (wp_leavesListener_ask trivial fun connection => ?_)
  split
  · exact hrun
  refine wp_bind.mpr (wp_leavesListener_ask trivial fun reconnect => ?_)
  split
  · exact hrun
  refine wp_bind.mpr (wp_leavesListener_ask trivial fun informNow => ?_)
  split
  · exact hrun
  refine wp_bind.mpr (wp_leavesListener_ask trivial fun reload => ?_)
  split
  · exact wp_bind.mpr (wp_refreshConfig_listenerRun hrun)
  split <;> exact hrun

theorem wp_waitForNextInform_listenerRun (hrun : ListenerRun config listener) :
    wp listenerEnv (fun _ => True) (waitForNextInform config)
      (fun result => ListenerRun result.2) listener := by
  unfold waitForNextInform
  split
  · exact wp_bind.mpr (wp_leavesListener_ask trivial fun _ => wp_wakeReason_listenerRun hrun)
  · exact wp_bind.mpr (wp_leavesListener_ask trivial fun _ => wp_wakeReason_listenerRun hrun)

/-- The start is the restart, once the configuration has been read. -/
theorem wp_start_listening :
    wp listenerEnv (fun _ => True) Daemon.start Listening listener := by
  refine wp_bind.mpr (wp_mono (wp_exec _ _) ?_)
  rintro ⟨config, changed⟩ listener₁ -
  cases changed with
  | false => exact Or.inl ⟨1, rfl⟩
  | true =>
      refine wp_bind.mpr (wp_mono (wp_exec _ _) ?_)
      rintro ⟨⟩ listener₂ hexec
      refine wp_bind.mpr (wp_leavesListener_ask trivial fun _ => ?_)
      exact wp_bind.mpr (wp_leavesListener_ask trivial fun _ => Or.inr (.restart hexec))

/-- The refreshes of a round, and what `run` stores in it, carry the sequence on. -/
theorem wp_round_listening {daemon : Daemon} (h : Listening daemon listener) :
    wp listenerEnv (fun _ => True) daemon.round Listening listener := by
  rcases h with ⟨code, hstopped⟩ | hrun
  · obtain ⟨config, events, place⟩ := daemon
    obtain rfl : place = .stopped code := hstopped
    exact Or.inl ⟨code, rfl⟩
  obtain ⟨config, events, place⟩ := daemon
  cases place with
  | head =>
      refine wp_bind.mpr (wp_leavesListener_ask trivial fun stopped => ?_)
      split
      · exact wp_stop_listening
      split
      · split
        · exact wp_bind.mpr (wp_leavesListener_ask trivial fun _ => Or.inr hrun)
        · exact Or.inr hrun
      · exact wp_inform_listening hrun
  -- a wake-up may refresh too, for a reload
  | waiting =>
      refine wp_bind.mpr (wp_mono (wp_waitForNextInform_listenerRun hrun) ?_)
      rintro ⟨wake, config'⟩ listener' hrun'
      cases wake with
      | none => exact Or.inr hrun'
      | some reason =>
          cases reason with
          | stop => exact wp_stop_listening
          | _ => exact Or.inr hrun'
  | overwrite cause => exact wp_bind.mpr (wp_leavesListener_ask trivial fun _ => Or.inr hrun)
  | stopped code => exact Or.inl ⟨code, rfl⟩

end Loop

/-- A run of the daemon, as its listener sees it. -/
inductive LoopRun : Daemon → Listener → Prop
  | start {daemon listener} (hexec : Exec listenerEnv Daemon.start {} daemon listener) :
      LoopRun daemon listener
  | round {daemon listener daemon' listener'} (hrun : LoopRun daemon listener)
      (hexec : Exec listenerEnv daemon.round listener daemon' listener') :
      LoopRun daemon' listener'

theorem LoopRun.listening {daemon : Daemon} {listener : Listener}
    (hrun : LoopRun daemon listener) : Listening daemon listener := by
  induction hrun with
  | start hexec => exact hexec.of_wp wp_start_listening
  | round _ hexec ih => exact hexec.of_wp (wp_round_listening ih)

/-- While the daemon runs, they are in step between any two rounds. -/
theorem LoopRun.inStep {daemon : Daemon} {listener : Listener} (hrun : LoopRun daemon listener)
    (hrunning : ∀ code, daemon.place ≠ .stopped code) : InStep daemon.config listener := by
  rcases hrun.listening with ⟨code, hstopped⟩ | hlistener
  · exact absurd hstopped (hrunning code)
  · exact hlistener.inStep

end Tr069d
