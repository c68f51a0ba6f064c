import Tr069d.Daemon.Calls
import Tr069d.Daemon.Events

/-!
# Which configuration changes are announced

`refreshConfig(false)` is called from four places.  The refresh that ends a
session and the one of a reload lead to a session with `"4 VALUE CHANGE"`; the
results of the other two, after a download and in a mock reboot, are dropped.
A change is announced in every run in which such a change is announced for
another reason (`announced_of_heeded`).

* `SameSettings` is what the difference of two configurations means here, a field at
  a time; `runtimeConfigEqual_iff` says that the comparison of the code decides it.
* `noting_refreshConfig` is the one lemma about a refresh, and `noting_sessionEnd`,
  `noting_inform` and `noting_round` carry `ChangeInvariant` through a round.
* `not_announced_of_not_heeded` shows that the guard is no stronger than it has to be.

The invariant says of a change that was found: it will be announced, or it was found
by one of the two refreshes whose result is dropped, or the daemon is idle.
-/

namespace Tr069d

open Effects Daemon

/-- What is noted of a run, the newest first. -/
inductive Note
  /-- `refreshConfig(false)` replaced `config_`. -/
  | replaced (previous updated : DaemonConfig)
  /-- The reload flag was taken. -/
  | reloadTaken
  /-- A session was opened for these events. -/
  | opened (events : List String)
  deriving DecidableEq, Repr

/-- The configuration that replaces `previous` when `read` was read. -/
def keptUrl (previous read : DaemonConfig) : DaemonConfig :=
  if read.acsUrl == "" && previous.acsUrl != "" then { read with acsUrl := previous.acsUrl }
  else read

/-- What is noted of a call. -/
def noteOf : (c : DaemonCall) → daemonCalls.Answer c → List Note
  | .readConfig previous, answer =>
      (answer.map fun read => Note.replaced previous (keptUrl previous read.1)).toList
  | .take .reload, _ => [.reloadTaken]
  | .session _ events, _ => [.opened events]
  | _, _ => []

/-- Every field is the same that an ACS or an operator can set.  These are all but the
two flags that the daemon stores itself. -/
@[mk_iff]
structure SameSettings (previous updated : DaemonConfig) : Prop where
  enableCwmp : updated.enableCwmp = previous.enableCwmp
  acsUrl : updated.acsUrl = previous.acsUrl
  acsUsername : updated.acsUsername = previous.acsUsername
  acsPassword : updated.acsPassword = previous.acsPassword
  caFile : updated.caFile = previous.caFile
  insecureTls : updated.insecureTls = previous.insecureTls
  periodicEnable : updated.periodicEnable = previous.periodicEnable
  periodicInterval : updated.periodicInterval = previous.periodicInterval
  periodicInformTime : updated.periodicInformTime = previous.periodicInformTime
  upgradesManaged : updated.upgradesManaged = previous.upgradesManaged
  defaultActiveNotificationThrottle :
    updated.defaultActiveNotificationThrottle = previous.defaultActiveNotificationThrottle
  mockMode : updated.mockMode = previous.mockMode
  connectionRequestEnable : updated.connectionRequestEnable = previous.connectionRequestEnable
  retryMinimumWait : updated.retryMinimumWait = previous.retryMinimumWait
  retryMultiplier : updated.retryMultiplier = previous.retryMultiplier
  bindAddress : updated.connectionRequest.bindAddress = previous.connectionRequest.bindAddress
  port : updated.connectionRequest.port = previous.connectionRequest.port
  username : updated.connectionRequest.username = previous.connectionRequest.username
  password : updated.connectionRequest.password = previous.connectionRequest.password
  auth : updated.connectionRequest.auth = previous.connectionRequest.auth
  realm : updated.connectionRequest.realm = previous.connectionRequest.realm

/-- This is what the daemon compares. -/
theorem runtimeConfigEqual_iff {previous updated : DaemonConfig} :
    runtimeConfigEqual updated previous = true ↔ SameSettings previous updated := by
  simp only [runtimeConfigEqual, connectionRequestEqual, sameSettings_iff, Bool.and_eq_true,
    beq_iff_eq, and_assoc]

instance (previous updated : DaemonConfig) : Decidable (SameSettings previous updated) :=
  decidable_of_iff _ runtimeConfigEqual_iff

/-- A field differs that the ACS or an operator can set. -/
def differs (previous updated : DaemonConfig) : Bool :=
  decide (¬SameSettings previous updated)

theorem differs_eq (previous updated : DaemonConfig) :
    differs previous updated = !runtimeConfigEqual updated previous := by
  rw [differs, decide_not, Bool.eq_iff_iff, Bool.not_eq_true', decide_eq_false_iff_not,
    Bool.not_eq_true', ← runtimeConfigEqual_iff, Bool.not_eq_true]

/-- A change was found since the last session was opened. -/
def changed : List Note → Bool
  | [] => false
  | .replaced previous updated :: earlier => differs previous updated || changed earlier
  | .reloadTaken :: earlier => changed earlier
  | .opened _ :: _ => false

/-- A session carries `"4 VALUE CHANGE"` if a change was found since the last one. -/
def Announced : Note → List Note → Prop
  | .opened events, earlier => changed earlier = true → "4 VALUE CHANGE" ∈ events
  | _, _ => True

instance (note : Note) (earlier : List Note) : Decidable (Announced note earlier) :=
  match note with
  | .opened events =>
      inferInstanceAs (Decidable (changed earlier = true → "4 VALUE CHANGE" ∈ events))
  | .replaced _ _ => isTrue trivial
  | .reloadTaken => isTrue trivial

/-- The change was found by a refresh that does not follow the look at the reload
flag: by the one after a download or the one in a mock reboot. -/
def overlooked : List Note → Bool
  | [] => false
  | .replaced _ _ :: .reloadTaken :: earlier => overlooked earlier
  | .replaced previous updated :: earlier => differs previous updated || overlooked earlier
  | .reloadTaken :: earlier => overlooked earlier
  | .opened _ :: _ => false

/-- An overlooked change of an active daemon is announced for another reason: a
reload, a reconnect or a change that the last refresh has found. -/
def Heeded (daemon : Daemon) (notes : List Note) : Prop :=
  match daemon.place with
  | .overwrite cause => overlooked notes = true → active daemon.config = true →
      "4 VALUE CHANGE" ∈ cause.events
  | _ => True

variable {σ : Type} (setup : Setup σ)

/-- A run of the daemon with notes of what happens after the start. -/
inductive NotedRun (guard : Daemon → List Note → Prop) : Daemon → World → List Note → Prop
  | start {daemon world} (hexec : Exec (daemonEnv setup) Daemon.start {} daemon world) :
      NotedRun guard daemon world []
  | round {daemon world notes daemon' world' notes'} (hrun : NotedRun guard daemon world notes)
      (hguard : guard daemon notes)
      (hexec : Exec (annotated (daemonEnv setup) noteOf) daemon.round (world, notes) daemon'
        (world', notes')) :
      NotedRun guard daemon' world' notes'

variable {setup}

/-- Every run can be noted. -/
theorem DaemonRun.exists_notes {daemon : Daemon} {world : World}
    (hrun : Reached setup daemon world) :
    ∃ notes, NotedRun setup (fun _ _ => True) daemon world notes := by
  induction hrun with
  | start hexec => exact ⟨[], .start hexec⟩
  | round _ _ hexec ih =>
      obtain ⟨notes, hnoted⟩ := ih
      obtain ⟨notes', hexec'⟩ := hexec.annotate noteOf notes
      exact ⟨notes', .round hnoted trivial hexec'⟩

theorem NotedRun.reached {guard : Daemon → List Note → Prop} {daemon : Daemon} {world : World}
    {notes : List Note} (hrun : NotedRun setup guard daemon world notes) :
    Reached setup daemon world := by
  induction hrun with
  | start hexec => exact .start hexec
  | round _ _ hexec ih => exact .round ih trivial hexec.of_annotated.1

/-! ## What a refresh does -/

/-- What `refreshConfig(false)` finds to be different. -/
def isChanged (previous updated : DaemonConfig) : Bool :=
  differs previous updated || updated.bootstrapDone != previous.bootstrapDone ||
    updated.pendingRebootEvent != previous.pendingRebootEvent

/-- What `refreshConfig` does with what it read, apart from replacing `config_`. -/
def refreshReport (initial : Bool) (previous read : DaemonConfig) : DaemonProg Unit := do
  let updated ← preserveUrl initial previous read
  if !initial && (updated.connectionRequestEnable != previous.connectionRequestEnable ||
      !connectionRequestEqual updated.connectionRequest previous.connectionRequest) then
    restartConnectionRequestServer updated
  if initial || isChanged previous updated then logUpdate initial previous updated

section Refresh

variable {initial : Bool} {previous : DaemonConfig}

theorem preserveUrl_eq (hinitial : initial = true → previous.acsUrl = "") (read : DaemonConfig) :
    preserveUrl initial previous read = (do
      let _ ← preserveUrl initial previous read
      return keptUrl previous read) := by
  unfold preserveUrl keptUrl
  cases initial with
  | true => simp [hinitial rfl]
  | false =>
      simp only [Bool.not_false, Bool.true_and]
      split <;> rfl

/-- Besides reading, a refresh only reports. -/
theorem refreshConfig_eq (hinitial : initial = true → previous.acsUrl = "") :
    refreshConfig initial previous = (do
      match ← Daemon.readConfig previous with
      | none => return (previous, false)
      | some (read, _) =>
          refreshReport initial previous read
          return (keptUrl previous read,
            initial || isChanged previous (keptUrl previous read))) := by
  unfold refreshConfig refreshReport
  congr 1
  funext answer
  cases answer with
  | none => rfl
  | some read =>
      obtain ⟨read, level⟩ := read
      dsimp only
      rw [preserveUrl_eq hinitial]
      simp only [bind_assoc, pure_bind, isChanged, differs_eq, ← Bool.or_assoc]
      congr 1
      funext _
      split <;> split <;> simp only [bind_assoc, pure_bind]

/-- The report logs, and it restarts the connection request server. -/
theorem calls_refreshReport {P : DaemonCall → Prop} (hlog : ∀ level message, P (.log level message))
    (hstop : P .stopServer) (hstart : ∀ config, P (.startServer config)) (read : DaemonConfig) :
    (refreshReport initial previous read).Calls P := by
  unfold refreshReport
  refine (calls_preserveUrl hlog _ _ _).bind fun updated => ?_
  have hupdate := @calls_logUpdate P hlog initial previous updated
  have hrestart := calls_restartConnectionRequestServer hlog hstop hstart updated
  dsimp only
  split <;> split
  · exact hrestart.bind fun _ => hupdate
  · exact hrestart.bind fun _ => Prog.calls_pure ()
  · exact hupdate
  · exact Prog.calls_pure ()

end Refresh

/-! ## What the programs note -/

/-- What holds of the result and the notes, whatever the answers are. -/
abbrev noting {α : Type} (program : DaemonProg α) (post : α → List Note → Prop)
    (earlier : List Note) : Prop :=
  wp (noted noteOf) (fun _ => True) program post earlier

/-- Nothing is noted of the call. -/
def Unnoted (c : DaemonCall) : Prop :=
  ∀ answer, noteOf c answer = []

section Programs

variable {α : Type} {earlier : List Note}

theorem unnoted_log (level : LogLevel) (message : String) : Unnoted (.log level message) :=
  fun _ => rfl

theorem unnoted_persist (write : FlagWrite) : Unnoted (.persist write) := fun _ => rfl

theorem noting_of_calls {program : DaemonProg α} {post : α → List Note → Prop}
    (h : program.Calls Unnoted) (hpost : ∀ value, post value earlier) :
    noting program post earlier :=
  wp_noted_of_calls h (fun _ hc => hc) hpost

theorem noting_ask {c : DaemonCall} {post : daemonCalls.Answer c → List Note → Prop}
    (hc : Unnoted c) (hpost : ∀ answer, post answer earlier) :
    noting (Prog.ask c) post earlier :=
  noting_of_calls (Prog.calls_ask hc) hpost

/-- A refresh is noted with the configuration it leaves, and answers that
nothing changed only if the fields that can be set are the same. -/
theorem noting_refreshConfig {previous : DaemonConfig}
    {post : DaemonConfig × Bool → List Note → Prop} (hfailed : post (previous, false) earlier)
    (hread : ∀ updated isChanged, (isChanged = false → differs previous updated = false) →
      post (updated, isChanged) (.replaced previous updated :: earlier)) :
    noting (refreshConfig false previous) post earlier := by
  rw [@refreshConfig_eq false previous nofun]
  refine wp_bind.mpr (wp_noted_ask_iff.mpr ?_)
  rintro (_ | ⟨read, level⟩)
  · exact hfailed
  · have hreport : (refreshReport false previous read).Calls Unnoted :=
      calls_refreshReport unnoted_log (fun _ => rfl) (fun _ _ => rfl) read
    refine wp_bind.mpr (noting_of_calls hreport fun _ => hread _ _ fun hnone => ?_)
    simp only [isChanged, Bool.false_or, Bool.or_eq_false_iff] at hnone
    exact hnone.1.1

theorem noting_stop (config : DaemonConfig) (events : List String) :
    noting (stop config events) (fun daemon notes =>
      daemon = ⟨config, events, .stopped 0⟩ ∧ notes = earlier) earlier := by
  unfold stop
  refine wp_bind.mpr (noting_ask (fun _ => rfl) fun _ => ?_)
  exact wp_bind.mpr (noting_ask (unnoted_log _ _) fun _ => ⟨rfl, rfl⟩)

end Programs

/-! ## What a round does with a change -/

/-- After a session: every change was overlooked so far. -/
structure OnlyOverlooked (notes : List Note) : Prop where
  announced : Always Announced notes
  dropped : changed notes = true → overlooked notes = true
  afterCall : notes.head? ≠ some .reloadTaken

/-- A change will be announced, was overlooked, or does not matter while the
daemon is idle. -/
def Covered (config : DaemonConfig) (notes : List Note) (events : List String) : Prop :=
  changed notes = true → active config = true →
    overlooked notes = true ∨ "4 VALUE CHANGE" ∈ events

/-- The invariant of the runs. -/
structure ChangeInvariant (daemon : Daemon) (notes : List Note) : Prop where
  announced : Always Announced notes
  head : daemon.place = .head → changed notes = true → active daemon.config = true →
    "4 VALUE CHANGE" ∈ daemon.events
  waiting : daemon.place = .waiting → Covered daemon.config notes []
  overwrite : ∀ cause, daemon.place = .overwrite cause → Covered daemon.config notes cause.events

section Round

variable {config : DaemonConfig} {events : List String} {earlier : List Note}

theorem changeInvariant_stopped {code : Nat} (h : Always Announced earlier) :
    ChangeInvariant ⟨config, events, .stopped code⟩ earlier :=
  ⟨h, nofun, nofun, nofun⟩

theorem overlooked_replaced {previous updated : DaemonConfig}
    (hcall : earlier.head? ≠ some .reloadTaken) :
    overlooked (.replaced previous updated :: earlier) =
      (differs previous updated || overlooked earlier) := by
  cases earlier with
  | nil => rfl
  | cons note earlier =>
      cases note with
      | reloadTaken => exact absurd rfl hcall
      | replaced | opened => rfl

/-- A refresh whose result is dropped. -/
theorem OnlyOverlooked.replaced {previous updated : DaemonConfig} (h : OnlyOverlooked earlier) :
    OnlyOverlooked (.replaced previous updated :: earlier) := by
  refine ⟨⟨trivial, h.announced⟩, ?_, nofun⟩
  intro hchanged
  rw [overlooked_replaced h.afterCall, Bool.or_eq_true]
  rw [changed, Bool.or_eq_true] at hchanged
  exact hchanged.imp_right h.dropped

theorem noting_runDownload {outcome : SessionOutcome} {http : HttpConfig}
    (h : OnlyOverlooked earlier) :
    noting (runDownload outcome http config) (fun _ notes => OnlyOverlooked notes) earlier := by
  unfold runDownload
  cases outcome.download with
  | none => exact h
  | some request =>
      refine wp_bind.mpr (wp_noted_ask_iff.mpr fun transfer => ?_)
      refine wp_bind.mpr (wp_noted_ask_iff.mpr fun reported => ?_)
      exact wp_bind.mpr (noting_refreshConfig h fun _ _ _ => h.replaced)

theorem noting_runReboot {outcome : SessionOutcome} (h : OnlyOverlooked earlier) :
    noting (runReboot outcome config) (fun _ notes => OnlyOverlooked notes) earlier := by
  unfold runReboot
  split
  · exact h
  · refine wp_bind.mpr (noting_ask (unnoted_persist _) fun _ => ?_)
    refine wp_bind.mpr (wp_noted_ask_iff.mpr fun rebooted => ?_)
    refine wp_bind.mpr (noting_ask (unnoted_log _ _) fun _ => ?_)
    split
    · have hsleep : ∀ {later : List Note} (config' : DaemonConfig), OnlyOverlooked later →
          noting (do sleep 2; return (config', true)) (fun _ notes => OnlyOverlooked notes) later :=
        fun _ hlater => wp_bind.mpr (wp_noted_ask_iff.mpr fun _ => hlater)
      exact wp_bind.mpr (noting_refreshConfig (hsleep _ h) fun _ _ _ => hsleep _ h.replaced)
    · exact h

/-- What follows the last refresh: a change that it found overwrites the list. -/
theorem noting_sessionEnd {changedAfterSession : Bool} (reloadDuringSession : Bool)
    (hannounced : Always Announced earlier)
    (hdropped : changedAfterSession = false → changed earlier = true → overlooked earlier = true) :
    noting (do
      if reloadDuringSession || changedAfterSession then
        return ⟨config, events, .overwrite .configChanged⟩
      else if ← stopRequested then stop config events
      else return ⟨config, events, .waiting⟩) ChangeInvariant earlier := by
  split
  · refine ⟨hannounced, nofun, nofun, ?_⟩
    rintro cause ⟨⟩ - -
    exact Or.inr (by decide)
  · rename_i hnothing
    simp only [Bool.or_eq_true, not_or, Bool.not_eq_true] at hnothing
    refine wp_bind.mpr (noting_ask (fun _ => rfl) fun stopped => ?_)
    split
    · refine wp_mono (noting_stop _ _) ?_
      rintro _ _ ⟨rfl, rfl⟩
      exact changeInvariant_stopped hannounced
    · refine ⟨hannounced, nofun, ?_, nofun⟩
      intro _ hchanged _
      exact Or.inl (hdropped hnothing.2 hchanged)

/-- A session carries `"4 VALUE CHANGE"` where it has to, and a change that is
found afterwards is overlooked or overwrites the list. -/
theorem noting_inform (hannounced : Always Announced earlier)
    (hhead : changed earlier = true → "4 VALUE CHANGE" ∈ events) :
    noting (inform config events) ChangeInvariant earlier := by
  have hopened : OnlyOverlooked (.opened events :: earlier) :=
    ⟨⟨hhead, hannounced⟩, nofun, nofun⟩
  unfold inform
  refine wp_bind.mpr (noting_ask (fun _ => rfl) fun _ => ?_)
  refine wp_bind.mpr (wp_noted_ask_iff.mpr fun outcome => ?_)
  refine wp_bind.mpr (noting_ask (fun _ => rfl) fun _ => ?_)
  refine wp_bind.mpr (noting_of_calls (calls_recordBootstrap unnoted_persist _ _) fun _ => ?_)
  refine wp_bind.mpr (noting_of_calls (calls_clearPendingReboot unnoted_persist _ _ _) fun _ => ?_)
  refine wp_bind.mpr (wp_mono (noting_runDownload hopened) fun _ notes hdownload => ?_)
  refine wp_bind.mpr (wp_mono (noting_runReboot hdownload) ?_)
  rintro ⟨config', mockRebooted⟩ notes hreboot
  cases mockRebooted with
  | true =>
      refine ⟨hreboot.announced, nofun, nofun, ?_⟩
      rintro cause ⟨⟩ hchanged -
      exact Or.inl (hreboot.dropped hchanged)
  | false =>
      refine wp_bind.mpr (wp_noted_ask_iff.mpr fun reloadDuringSession => ?_)
      refine wp_bind.mpr (noting_refreshConfig ?_ fun updated isChanged hsame => ?_)
      · exact noting_sessionEnd _ ⟨trivial, hreboot.announced⟩ fun _ => hreboot.dropped
      · refine noting_sessionEnd _ ⟨trivial, trivial, hreboot.announced⟩ ?_
        intro hnone hchanged
        -- the last refresh has found nothing, so that the change is an earlier one
        rw [changed, hsame hnone, Bool.false_or] at hchanged
        exact hreboot.dropped hchanged

/-- What a wait does: it notes no change, unless it ends with a reload. -/
def Woke (config : DaemonConfig) (earlier : List Note)
    (result : Option WakeReason × DaemonConfig) (notes : List Note) : Prop :=
  Always Announced notes ∧ (result.1 = some .reload ∨
    result.2 = config ∧ changed notes = changed earlier ∧ overlooked notes = overlooked earlier)

theorem noting_wakeReason (hannounced : Always Announced earlier) (signaled : Bool) :
    noting (wakeReason config signaled) (Woke config earlier) earlier := by
  have hwoke : ∀ wake, Woke config earlier (wake, config) earlier :=
    fun _ => ⟨hannounced, Or.inr ⟨rfl, rfl, rfl⟩⟩
  unfold wakeReason
  -- the flags in the order of the source; only a reload that is taken leaves a note
  refine wp_bind.mpr (noting_ask (fun _ => rfl) fun stopped => ?_)
  split
  · exact hwoke _
  refine wp_bind.mpr (wp_noted_ask_iff.mpr fun connection => ?_)
  split
  · exact hwoke _
  refine wp_bind.mpr (wp_noted_ask_iff.mpr fun reconnect => ?_)
  split
  · exact hwoke _
  refine wp_bind.mpr (wp_noted_ask_iff.mpr fun informNow => ?_)
  split
  · exact hwoke _
  refine wp_bind.mpr (wp_noted_ask_iff.mpr fun reload => ?_)
  split
  -- a reload announces whatever its refresh finds
  · have hreloaded : ∀ (config' : DaemonConfig) (later : List Note), Always Announced later →
        Woke config earlier (some .reload, config') later := fun _ _ h => ⟨h, Or.inl rfl⟩
    refine wp_bind.mpr (noting_refreshConfig ?_ fun updated isChanged _ => ?_)
    · exact hreloaded _ _ ⟨trivial, hannounced⟩
    · exact hreloaded _ _ ⟨trivial, trivial, hannounced⟩
  · have hnothing : ∀ wake, Woke config earlier (wake, config) (.reloadTaken :: earlier) :=
      fun _ => ⟨⟨trivial, hannounced⟩, Or.inr ⟨rfl, rfl, rfl⟩⟩
    split
    · exact hnothing _
    · exact hnothing _

theorem noting_waitForNextInform (hannounced : Always Announced earlier) :
    noting (waitForNextInform config) (Woke config earlier) earlier := by
  unfold waitForNextInform
  split
  · exact wp_bind.mpr (noting_ask (fun _ => rfl) fun _ => noting_wakeReason hannounced _)
  · exact wp_bind.mpr (noting_ask (fun _ => rfl) fun _ => noting_wakeReason hannounced _)

/-- A wait leaves a covered change covered. -/
theorem Woke.covered {wake : Option WakeReason} {config' : DaemonConfig} {notes : List Note}
    (hwoke : Woke config earlier (wake, config') notes) (h : Covered config earlier [])
    (hreload : wake ≠ some .reload) (events : List String) : Covered config' notes events := by
  obtain ⟨-, hreload' | ⟨rfl, hchanged, hoverlooked⟩⟩ := hwoke
  · exact absurd hreload' hreload
  · intro hnew hactive
    rw [hoverlooked]
    exact (h (hchanged ▸ hnew) hactive).imp_right nofun

theorem noting_head (h : ChangeInvariant ⟨config, events, .head⟩ earlier) :
    noting (Daemon.round ⟨config, events, .head⟩) ChangeInvariant earlier := by
  refine wp_bind.mpr (noting_ask (fun _ => rfl) fun stopped => ?_)
  split
  · refine wp_mono (noting_stop _ _) ?_
    rintro _ _ ⟨rfl, rfl⟩
    exact changeInvariant_stopped h.announced
  split
  · rename_i hidle
    -- an idle daemon has nothing to announce
    have hwaiting : ChangeInvariant ⟨config, events, .waiting⟩ earlier := by
      refine ⟨h.announced, nofun, fun _ _ hactive => ?_, nofun⟩
      rw [hactive] at hidle
      cases hidle
    split
    · exact wp_bind.mpr (noting_ask (unnoted_log _ _) fun _ => hwaiting)
    · exact hwaiting
  · rename_i hactive
    apply noting_inform h.announced
    intro hchanged
    exact h.head rfl hchanged (by simpa using hactive)

theorem noting_waiting (h : ChangeInvariant ⟨config, events, .waiting⟩ earlier) :
    noting (Daemon.round ⟨config, events, .waiting⟩) ChangeInvariant earlier := by
  refine wp_bind.mpr (wp_mono (noting_waitForNextInform h.announced) ?_)
  rintro ⟨wake, config'⟩ notes hwoke
  have hcovered := hwoke.covered (h.waiting rfl)
  cases wake with
  | none => exact ⟨hwoke.1, nofun, fun _ => hcovered nofun [], nofun⟩
  | some reason =>
      have hoverwrite : Covered config' notes (Cause.woke reason).events →
          ChangeInvariant ⟨config', events, .overwrite (.woke reason)⟩ notes := by
        intro hreason
        refine ⟨hwoke.1, nofun, nofun, ?_⟩
        rintro _ ⟨⟩
        exact hreason
      cases reason with
      | stop =>
          refine wp_mono (noting_stop _ _) ?_
          rintro _ _ ⟨rfl, rfl⟩
          exact changeInvariant_stopped hwoke.1
      | reload => exact hoverwrite fun _ _ => Or.inr (by decide)
      | periodic | connectionRequest | reconnect | informNow =>
          exact hoverwrite (hcovered nofun _)

/-- Every round that meets the guard keeps the invariant. -/
theorem noting_round {daemon : Daemon} (h : ChangeInvariant daemon earlier)
    (hheeded : Heeded daemon earlier) : noting daemon.round ChangeInvariant earlier := by
  obtain ⟨config, events, place⟩ := daemon
  cases place with
  | head => exact noting_head h
  | waiting => exact noting_waiting h
  | overwrite cause =>
      refine wp_bind.mpr (wp_noted_ask_iff.mpr fun _ => ?_)
      refine ⟨h.announced, fun _ hchanged hactive => ?_, nofun, nofun⟩
      rcases h.overwrite cause rfl hchanged hactive with hoverlooked | hannounces
      · exact hheeded hoverlooked hactive
      · exact hannounces
  | stopped code => exact h

end Round

/-! ## Runs -/

variable {daemon : Daemon} {world : World} {notes : List Note}

theorem changeInvariant_start (daemon : Daemon) : ChangeInvariant daemon [] := by
  have hcovered : ∀ config events, Covered config [] events := fun _ _ => nofun
  exact ⟨trivial, fun _ => nofun, fun _ => hcovered _ _, fun _ _ => hcovered _ _⟩

/-- In every run in which overlooked changes are heeded, every change is announced. -/
theorem announced_of_heeded (hrun : NotedRun setup Heeded daemon world notes) :
    Always Announced notes := by
  have hinvariant : ChangeInvariant daemon notes := by
    induction hrun with
    | start hexec => exact changeInvariant_start _
    | round _ hguard hexec ih => exact hexec.of_annotated.2.of_wp (noting_round ih hguard)
  exact hinvariant.announced

theorem changed_of_overlooked {notes : List Note} (h : overlooked notes = true) :
    changed notes = true := by
  induction notes with
  | nil => cases h
  | cons note earlier ih =>
      cases note with
      | replaced previous updated =>
          rw [changed, Bool.or_eq_true]
          by_cases hcall : earlier.head? = some .reloadTaken
          · refine Or.inr (ih ?_)
            obtain ⟨rest, rfl⟩ := List.head?_eq_some_iff.mp hcall
            exact h
          · rw [overlooked_replaced hcall, Bool.or_eq_true] at h
            exact h.imp_right ih
      | reloadTaken => exact ih h
      | opened events => cases h

/-- The guard is no stronger than it has to be: after an overwrite that does not
meet it, the next session, if there is one, does not announce the change. -/
theorem not_announced_of_not_heeded {daemon' daemon'' : Daemon} {notes' notes'' : List Note}
    (hunheeded : ¬Heeded daemon notes)
    (hexec : Exec (noted noteOf) daemon.round notes daemon' notes')
    (hexec' : Exec (noted noteOf) daemon'.round notes' daemon'' notes'') :
    notes'' = notes ∨ ¬Always Announced notes'' := by
  obtain ⟨config, events, place⟩ := daemon
  cases place with
  | head | waiting | stopped => exact absurd trivial hunheeded
  | overwrite cause =>
      simp only [Heeded, Classical.not_imp] at hunheeded
      obtain ⟨hoverlooked, hactive, hmissing⟩ := hunheeded
      -- the round after the overwrite begins with its list
      have hassign : noting (Daemon.round ⟨config, events, .overwrite cause⟩)
          (fun daemon' notes' => daemon' = ⟨config, cause.events, .head⟩ ∧ notes' = notes) notes :=
        wp_bind.mpr (wp_noted_ask_iff.mpr fun _ => ⟨rfl, rfl⟩)
      obtain ⟨rfl, rfl⟩ := hexec.of_wp hassign
      -- and either opens a session with that list, which lacks the event, or none
      have hround : noting (Daemon.round ⟨config, cause.events, .head⟩)
          (fun _ notes'' => notes'' = notes' ∨ ¬Always Announced notes'') notes' := by
        refine wp_bind.mpr (noting_ask (fun _ => rfl) fun stopped => ?_)
        split
        · exact wp_mono (noting_stop _ _) fun _ _ hend => Or.inl hend.2
        rw [hactive, Bool.not_true, if_neg Bool.false_ne_true]
        refine wp_bind.mpr (noting_ask (fun _ => rfl) fun _ => ?_)
        refine wp_bind.mpr (wp_noted_ask_iff.mpr fun outcome => ?_)
        refine wp_mono (wp_noted_append _ _) ?_
        rintro _ _ ⟨newer, rfl⟩
        refine Or.inr fun hannounced => ?_
        exact hmissing (hannounced.of_append.1 (changed_of_overlooked hoverlooked))
      exact hexec'.of_wp hround

/-! ## A device whose interval is changed -/

namespace Scenario

variable (scenario : Scenario σ)

/-- The states of `Scenario.state`, with notes of the rounds. -/
def notedState : Nat → Daemon × World × List Note
  | 0 => ((scenario.state 0).1, (scenario.state 0).2, [])
  | n + 1 => (notedState n).1.round.run (annotatedHandler scenario.handler noteOf) (notedState n).2

theorem notedRun {guard : Daemon → List Note → Prop} (n : Nat)
    (hguard : ∀ m < n, guard (scenario.notedState m).1 (scenario.notedState m).2.2) :
    NotedRun scenario.setup guard (scenario.notedState n).1 (scenario.notedState n).2.1
      (scenario.notedState n).2.2 := by
  induction n with
  | zero => exact .start (exec_run scenario.handler_mem_daemonEnv _ _)
  | succ n ih =>
      have hrun := ih fun m hm => hguard m (Nat.lt_succ_of_lt hm)
      exact .round hrun (hguard n (Nat.lt_succ_self n))
        (exec_run (annotatedHandler_mem scenario.handler_mem_daemonEnv) _ _)

end Scenario

/-- A device that has informed its ACS, with this interval. -/
def intervalStore (interval : String) : Store :=
  .ofCommitted fun key =>
    if key = "tr69.periodic_inform.interval" then some interval
    else (deviceStore true).committed key

/-- What is read from it. -/
def intervalConfig (later : Bool) (target : DaemonConfig) : DaemonConfig :=
  { deviceConfig true target with periodicInterval := if later then 60 else 300 }

theorem configFrom_intervalStore (later : Bool) (target : DaemonConfig) :
    configFrom (intervalStore (if later then "60" else "300")) false target =
      intervalConfig later target := by
  have hdefault : configFrom (intervalStore (if later then "60" else "300")) false {} =
      intervalConfig later {} := by
    cases later <;> decide
  exact configFrom_target hdefault target

/-- The run of such a device whose interval is 300 at first and 60 once `later`. -/
def intervalScenario (later : List Entry → Bool) (script : List Entry → List HttpResponse) :
    Scenario (LuaTransformer × Store) where
  setup := (deviceScenario script).setup
  platformState := (deviceScenario script).platformState
  reading history target := (intervalConfig (later history) target, .info)
  reads history target := by
    refine ⟨⟨some plainEngine.toEngine, ""⟩, rfl, ?_⟩
    generalize later history = changed
    have hlevel : logLevelFrom (intervalStore (if changed then "60" else "300")) = .info := by
      cases changed <;> decide
    have hrun := run_readConfig plainEngine (intervalStore (if changed then "60" else "300")) ""
      false target
    rw [configFrom_intervalStore, hlevel] at hrun
    have hexec := Scenario.exec_anything
      (readConfig ⟨some plainEngine.toEngine, ""⟩ false target)
      (intervalStore (if changed then "60" else "300"))
    rwa [hrun] at hexec
  script := script

/-- The interval is changed during the first session. -/
def changedInSession : Scenario (LuaTransformer × Store) :=
  intervalScenario (fun history => history.any fun entry => entry matches .session ..)
    fun _ => noTask

/-- The interval is changed during the download of the first session. -/
def changedInDownload : Scenario (LuaTransformer × Store) :=
  intervalScenario (fun history => history.any fun entry => entry matches .downloaded ..)
    onlyDownload

/-- The refresh that ends the session finds the change, and the next one announces it. -/
theorem changedInSession_announced :
    Note.opened ["4 VALUE CHANGE"] ∈ (changedInSession.notedState 3).2.2 ∧
      Always Announced (changedInSession.notedState 3).2.2 := by
  refine ⟨by decide, announced_of_heeded (changedInSession.notedRun 3 fun m hm => ?_)⟩
  match m, hm with
  | 0, _ => trivial
  | 1, _ => exact fun _ _ => List.mem_cons_self ..
  | 2, _ => trivial

/-- The refresh after the download finds the change, and the periodic session
after it does not announce it. -/
theorem changedInDownload_not_announced : ∃ daemon world notes,
    NotedRun changedInDownload.setup (fun _ _ => True) daemon world notes ∧
      ¬Always Announced notes :=
  ⟨_, _, _, changedInDownload.notedRun 4 fun _ _ => trivial, by decide⟩

end Tr069d
