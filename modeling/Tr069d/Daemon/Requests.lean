import Tr069d.Daemon.Calls
import Tr069d.Daemon.Signals

/-!
# Ledgers of requests

A request of another thread sets a flag, at any time and as often as it likes, and
the daemon thread takes the flags in a fixed order, at most one for each wait.
Here a run keeps a ledger of what was raised and what was taken, from which the
flags can be told (`flagsOf`).  Every run of the daemon keeps one
(`DaemonRun.exists_ledger`), and `Passes` says what a round puts down in it.

* `booking_ask` and `booking_of_calls` are what single calls put down, with the signals
  of the others in front of them.
* `booking_wakeReason` follows the order in which the flags are looked at: behind the
  look at one request it is known that none of the more urgent ones was set.
* `booking_round` derives `Passes` for a whole round, and is what the results about
  overtaking and about what is paid for start from.
-/

namespace Tr069d

open Effects Daemon

/-! ## The ledger -/

/-- What is put down of a run, the newest first. -/
inductive Posting
  /-- Another thread called `requestStop`, or one of the other four. -/
  | raised (signal : Signal)
  /-- The daemon thread took a request that was set. -/
  | taken (request : Request)
  /-- A wait ended. -/
  | woke
  /-- `CwmpSession::run` was called with these events. -/
  | opened (events : List String)
  deriving DecidableEq, Repr

namespace Posting

def act (flags : Flags) : Posting → Flags
  | .raised signal => flags.after signal
  | .taken request => flags.lower request
  | _ => flags

end Posting

/-- The flags that a ledger leaves. -/
def flagsOf (ledger : List Posting) : Flags :=
  ledger.foldr (fun posting flags => posting.act flags) {}

/-- How the flags decide a call. -/
def Flags.Decide : (c : DaemonCall) → Flags → daemonCalls.Answer c → Prop
  | .stopRequested, flags, answer => answer = flags.stop
  | .take request, flags, answer => answer = flags.requested request
  | .wait timeout, flags, answer => answer = flags.wake ∧ (timeout = none → answer = true)
  | _, _, _ => True

/-- What is put down of a call. -/
def postingsOf : (c : DaemonCall) → daemonCalls.Answer c → List Posting
  | .take request, answer => if answer then [.taken request] else []
  | .wait _, _ => [.woke]
  | .session _ events, _ => [.opened events]
  | _, _ => []

/-- The surroundings of the daemon thread, of which only the flags matter. -/
def ledgerEnv : Env daemonCalls (List Posting) := fun c ledger answer ledger' =>
  ∃ signals : List Signal, (flagsOf (signals.map .raised ++ ledger)).Decide c answer ∧
    ledger' = postingsOf c answer ++ (signals.map .raised ++ ledger)

/-- The daemon between two rounds, and the ledger. -/
inductive LedgerRun : Daemon → List Posting → Prop
  | start {daemon ledger} (hexec : Exec ledgerEnv Daemon.start [] daemon ledger) :
      LedgerRun daemon ledger
  | round {daemon ledger daemon' ledger'} (hrun : LedgerRun daemon ledger)
      (hexec : Exec ledgerEnv daemon.round ledger daemon' ledger') : LedgerRun daemon' ledger'

/-! ## The flags of a ledger -/

namespace Flags

variable (flags : Flags) {request other : Request}

@[simp] theorem requested_after_self (request : Request) :
    (flags.after (.request request)).requested request = true := by
  simp [after]

@[simp] theorem requested_lower_self (request : Request) :
    (flags.lower request).requested request = false := by
  simp [lower]

theorem requested_after_of_ne (hother : request ≠ other) :
    (flags.after (.request other)).requested request = flags.requested request := by
  simp [after, Function.update_of_ne hother]

theorem requested_lower_of_ne (hother : request ≠ other) :
    (flags.lower other).requested request = flags.requested request := by
  simp [lower, Function.update_of_ne hother]

end Flags

section Ledger

variable {ledger newer older : List Posting} {request : Request}

theorem flagsOf_signals (signals : List Signal) (ledger : List Posting) :
    flagsOf (signals.map .raised ++ ledger) = (flagsOf ledger).afterAll signals := by
  induction signals with
  | nil => rfl
  | cons signal signals ih =>
      have hstep : flagsOf ((signal :: signals).map .raised ++ ledger) =
          (flagsOf (signals.map .raised ++ ledger)).after signal := rfl
      rw [hstep, ih]
      rfl

/-- A flag that was raised stays set until it is taken. -/
theorem requested_of_raised (htaken : .taken request ∉ newer) :
    (flagsOf (newer ++ .raised (.request request) :: older)).requested request = true := by
  induction newer with
  | nil => exact Flags.requested_after_self _ _
  | cons posting newer ih =>
      have hrest := ih fun hmem => htaken (List.mem_cons_of_mem _ hmem)
      cases posting with
      | raised signal => exact (Flags.raised_after _ signal).2 request hrest
      | taken other =>
          have hother : request ≠ other := by
            rintro rfl
            exact htaken List.mem_cons_self
          exact (Flags.requested_lower_of_ne _ hother).trans hrest
      | woke | opened => exact hrest

/-- The stop flag is never lowered. -/
theorem stop_flagsOf : (flagsOf ledger).stop = true ↔ .raised .stop ∈ ledger := by
  induction ledger with
  | nil => simp [flagsOf]
  | cons posting ledger ih =>
      cases posting with
      | raised signal =>
          cases signal with
          | stop => simp [flagsOf, Posting.act, Flags.after]
          | request other => simpa [flagsOf, Posting.act, Flags.after] using ih
      | taken other => simpa [flagsOf, Posting.act, Flags.lower] using ih
      | woke | opened => simpa [flagsOf, Posting.act] using ih

end Ledger

/-! ## Programs that keep a ledger -/

/-- What holds of the result and the ledger, whatever others request meanwhile. -/
abbrev booking {α : Type} (program : DaemonProg α) (post : α → List Posting → Prop)
    (ledger : List Posting) : Prop :=
  wp ledgerEnv (fun _ => True) program post ledger

/-- Signals do not disturb it. -/
def Undisturbed (I : List Posting → Prop) : Prop :=
  ∀ signal ledger, I ledger → I (.raised signal :: ledger)

/-- Nothing is put down of the call. -/
def Unposted (c : DaemonCall) : Prop :=
  ∀ answer, postingsOf c answer = []

section Booking

variable {α : Type} {I : List Posting → Prop} {ledger : List Posting}

theorem Undisturbed.signals (hI : Undisturbed I) (h : I ledger) (signals : List Signal) :
    I (signals.map .raised ++ ledger) := by
  induction signals with
  | nil => exact h
  | cons signal signals ih => exact hI signal _ ih

/-- A call, after the signals that come before it. -/
theorem booking_ask (hI : Undisturbed I) (h : I ledger) {c : DaemonCall}
    {post : daemonCalls.Answer c → List Posting → Prop}
    (hpost : ∀ answer ledger, I ledger → (flagsOf ledger).Decide c answer →
      post answer (postingsOf c answer ++ ledger)) :
    booking (Prog.ask c) post ledger := by
  refine ⟨trivial, ?_⟩
  rintro answer _ ⟨signals, hdecide, rfl⟩
  exact hpost answer _ (hI.signals h signals) hdecide

/-- Calls of which nothing is put down. -/
theorem booking_of_calls (hI : Undisturbed I) (h : I ledger) {program : DaemonProg α}
    (hcalls : program.Calls Unposted) : booking program (fun _ => I) ledger := by
  refine wp_of_calls hcalls ?_ h fun _ _ hlater => hlater
  rintro c ledger answer _ hc hledger ⟨signals, -, rfl⟩
  rw [hc answer]
  exact hI.signals hledger signals

end Booking

/-! ## The parts of a round -/

theorem Undisturbed.and {I J : List Posting → Prop} (hI : Undisturbed I) (hJ : Undisturbed J) :
    Undisturbed fun ledger => I ledger ∧ J ledger :=
  fun signal ledger h => ⟨hI signal ledger h.1, hJ signal ledger h.2⟩

theorem undisturbed_mem (posting : Posting) : Undisturbed (posting ∈ ·) :=
  fun _ _ h => List.mem_cons_of_mem _ h

/-- How a round ends that opened a session. -/
def AfterInform : Place → Prop
  | .head => False
  | .waiting => True
  | .overwrite cause => ∀ reason, cause ≠ .woke reason
  | .stopped code => code = 0

section Parts

variable {config : DaemonConfig} {events : List String} {ledger : List Posting}
  {I J K : List Posting → Prop}

theorem unposted_log (level : LogLevel) (message : String) : Unposted (.log level message) :=
  fun _ => rfl

theorem unposted_persist (write : FlagWrite) : Unposted (.persist write) := fun _ => rfl

theorem unposted_setState (state : String) : Unposted (.setState state) := fun _ => rfl

theorem unposted_refreshConfig (initial : Bool) (previous : DaemonConfig) :
    (refreshConfig initial previous).Calls Unposted :=
  calls_refreshConfig unposted_log (fun _ => rfl) (fun _ _ => rfl) (fun _ _ => rfl) initial previous

theorem unposted_runReboot (outcome : SessionOutcome) (config : DaemonConfig) :
    (runReboot outcome config).Calls Unposted := by
  have hreboot : ∀ mockMode commandKey, Unposted (.reboot mockMode commandKey) :=
    fun _ _ _ => rfl
  have hsleep : ∀ seconds, Unposted (.sleep seconds) := fun _ _ => rfl
  unfold runReboot
  split
  · exact Prog.calls_pure _
  refine (Prog.calls_ask (unposted_persist _)).bind fun _ => ?_
  refine (Prog.calls_ask (hreboot _ _)).bind fun rebootOk => ?_
  refine (calls_log unposted_log _ _).bind fun _ => ?_
  split
  · refine (unposted_refreshConfig _ _).bind fun result => ?_
    exact (Prog.calls_ask (hsleep _)).bind fun _ => Prog.calls_pure _
  · exact Prog.calls_pure _

theorem booking_stop (hI : Undisturbed I) (h : I ledger) :
    booking (stop config events) (fun daemon ledger =>
      daemon = ⟨config, events, .stopped 0⟩ ∧ I ledger) ledger := by
  have hserver : (stopServer).Calls Unposted := Prog.calls_ask fun _ => rfl
  refine wp_bind.mpr (wp_mono (booking_of_calls hI h hserver) fun _ ledger h => ?_)
  refine wp_bind.mpr (wp_mono (booking_of_calls hI h (calls_log unposted_log _ _)) ?_)
  intro _ ledger h
  exact ⟨rfl, h⟩

/-- Taking a request puts it down exactly if it is set. -/
theorem booking_take (hI : Undisturbed I) (h : I ledger) (request : Request)
    {post : Bool → List Posting → Prop}
    (htaken : ∀ ledger, I ledger → (flagsOf ledger).requested request = true →
      post true (.taken request :: ledger))
    (hnot : ∀ ledger, I ledger → (flagsOf ledger).requested request = false →
      post false ledger) :
    booking (take request) post ledger := by
  refine booking_ask hI h fun answer ledger h hanswer => ?_
  cases answer with
  | true => exact htaken ledger h hanswer.symm
  | false => exact hnot ledger h hanswer.symm

/-- What a session and what follows it put down: the session, and perhaps a reload. -/
theorem booking_inform (hI : Undisturbed I) (hJ : Undisturbed J) (hK : Undisturbed K)
    (hopened : ∀ ledger, I ledger → J (.opened events :: ledger))
    (htaken : ∀ ledger, J ledger → (flagsOf ledger).requested .reload = true →
      K (.taken .reload :: ledger))
    (hnot : ∀ ledger, J ledger → K ledger) (h : I ledger) :
    booking (inform config events) (fun daemon ledger => K ledger ∧
      ∃ config' place, daemon = ⟨config', events, place⟩ ∧ AfterInform place ∧
        ∀ code, place = .stopped code → .raised .stop ∈ ledger) ledger := by
  unfold inform
  refine wp_bind.mpr (wp_mono (booking_of_calls hI h (Prog.calls_ask (unposted_setState _))) ?_)
  intro _ ledger h
  refine wp_bind.mpr (booking_ask hI h fun outcome ledger h _ => ?_)
  replace h : J (.opened events :: ledger) := hopened ledger h
  refine wp_bind.mpr (wp_mono (booking_of_calls hJ h (Prog.calls_ask (unposted_setState _))) ?_)
  intro _ ledger h
  refine wp_bind.mpr (wp_mono (booking_of_calls hJ h
    (calls_recordBootstrap unposted_persist outcome config)) fun config ledger h => ?_)
  refine wp_bind.mpr (wp_mono (booking_of_calls hJ h
    (calls_clearPendingReboot unposted_persist outcome events config)) fun config ledger h => ?_)
  have hdownload : ∀ http, (runDownload outcome http config).Calls Unposted :=
    fun http => calls_runDownload unposted_log (fun _ => rfl) (fun _ _ => rfl) (fun _ _ => rfl)
      (fun _ _ _ => rfl) (fun _ _ _ => rfl) outcome http config
  refine wp_bind.mpr (wp_mono (booking_of_calls hJ h (hdownload _)) fun config ledger h => ?_)
  refine wp_bind.mpr (wp_mono (booking_of_calls hJ h (unposted_runReboot outcome config)) ?_)
  rintro ⟨config, mockRebooted⟩ ledger h
  cases mockRebooted with
  | true =>
      -- the flag of the reload is left as it is
      exact ⟨hnot ledger h, config, _, rfl, fun _ hcause => Cause.noConfusion hcause,
        fun _ hplace => Place.noConfusion hplace⟩
  | false =>
      have htake : booking (take .reload) (fun _ => K) ledger :=
        booking_take hJ h .reload htaken fun ledger h _ => hnot ledger h
      refine wp_bind.mpr (wp_mono htake fun reload ledger h => ?_)
      refine wp_bind.mpr (wp_mono (booking_of_calls hK h (unposted_refreshConfig _ _)) ?_)
      rintro ⟨config, changed⟩ ledger h
      dsimp only
      split
      · exact ⟨h, config, _, rfl, fun _ hcause => Cause.noConfusion hcause,
          fun _ hplace => Place.noConfusion hplace⟩
      refine wp_bind.mpr (booking_ask hK h fun stopped ledger h hstopped => ?_)
      split
      · rename_i hset
        have hraised : .raised .stop ∈ ledger := stop_flagsOf.mp (hstopped.symm.trans hset)
        refine wp_mono (booking_stop (hK.and (undisturbed_mem _)) ⟨h, hraised⟩) ?_
        rintro _ ledger ⟨rfl, h, hraised⟩
        exact ⟨h, config, _, rfl, rfl, fun _ _ => hraised⟩
      · exact ⟨h, config, _, rfl, trivial, fun _ hplace => Place.noConfusion hplace⟩

end Parts

/-! ## Waking up -/

/-- The requests that `waitForNextInform` takes before this one. -/
def Request.urgent : Request → List Request
  | .connection => []
  | .reconnect => [.connection]
  | .informNow => [.connection, .reconnect]
  | .reload => [.connection, .reconnect, .informNow]

def Request.rank (request : Request) : Nat :=
  request.urgent.length

/-- The wake-up that a request leads to. -/
def Request.reason : Request → WakeReason
  | .connection => .connectionRequest
  | .reload => .reload
  | .reconnect => .reconnect
  | .informNow => .informNow

section Waking

variable {config : DaemonConfig} {ledger : List Posting} {I J : List Posting → Prop}
  {stage : Nat → List Posting → Prop} {post : Option WakeReason → List Posting → Prop}

/-- The requests are looked at in their order, after the stop. -/
theorem booking_wakeReason (hI : Undisturbed I) (hstage : ∀ rank, Undisturbed (stage rank))
    (hpost : Undisturbed (post (some .reload)))
    (hstop : ∀ ledger, I ledger → .raised .stop ∈ ledger → post (some .stop) ledger)
    (hgoing : ∀ ledger, I ledger → .raised .stop ∉ ledger → stage 0 ledger)
    (htaken : ∀ request ledger, stage request.rank ledger →
      (flagsOf ledger).requested request = true →
        post (some request.reason) (.taken request :: ledger))
    (hnot : ∀ request ledger, stage request.rank ledger →
      (flagsOf ledger).requested request = false → stage (request.rank + 1) ledger)
    (hend : ∀ reason ledger, reason = none ∨ reason = some .periodic → stage 4 ledger →
      post reason ledger)
    (signaled : Bool) (h : I ledger) :
    booking (wakeReason config signaled) (fun result => post result.1) ledger := by
  unfold wakeReason
  refine wp_bind.mpr (booking_ask hI h fun stopped ledger h hstopped => ?_)
  split
  -- a flag is set exactly if the ledger has a request that was not taken
  · rename_i hset
    exact hstop ledger h (stop_flagsOf.mp (hstopped.symm.trans hset))
  rename_i hunset
  replace h : stage 0 ledger :=
    hgoing ledger h fun hraised => hunset (hstopped.trans (stop_flagsOf.mpr hraised))
  refine wp_bind.mpr (booking_take (hstage 0) h .connection (htaken .connection) ?_)
  intro ledger h hset
  -- `stage rank` says that nothing more urgent than `rank` was found
  replace h : stage 1 ledger := hnot .connection ledger h hset
  refine wp_bind.mpr (booking_take (hstage 1) h .reconnect (htaken .reconnect) ?_)
  intro ledger h hset
  replace h : stage 2 ledger := hnot .reconnect ledger h hset
  refine wp_bind.mpr (booking_take (hstage 2) h .informNow (htaken .informNow) ?_)
  intro ledger h hset
  replace h : stage 3 ledger := hnot .informNow ledger h hset
  refine wp_bind.mpr (booking_take (hstage 3) h .reload (fun ledger h hset => ?_) ?_)
  · -- the configuration is read before the reload is acted upon
    have hreload := htaken .reload ledger h hset
    refine wp_bind.mpr (wp_mono (booking_of_calls hpost hreload (unposted_refreshConfig _ _)) ?_)
    intro result ledger h
    exact h
  intro ledger h hset
  replace h : stage 4 ledger := hnot .reload ledger h hset
  show wp _ _ (if !signaled then _ else _) _ _
  split
  · exact hend _ ledger (Or.inr rfl) h
  · exact hend _ ledger (Or.inl rfl) h

theorem booking_waitForNextInform (hJ : Undisturbed J)
    (hwoke : ∀ ledger, J ledger → I (.woke :: ledger))
    (hreason : ∀ signaled ledger, I ledger →
      booking (wakeReason config signaled) (fun result => post result.1) ledger)
    (h : J ledger) :
    booking (waitForNextInform config) (fun result => post result.1) ledger := by
  unfold waitForNextInform
  split
  · exact wp_bind.mpr (booking_ask hJ h fun signaled ledger h _ =>
      hreason signaled _ (hwoke ledger h))
  · exact wp_bind.mpr (booking_ask hJ h fun _ ledger h _ => hreason true _ (hwoke ledger h))

end Waking

/-! ## A round -/

/-- The daemon thread put it down itself. -/
def Posting.isOwn : Posting → Bool
  | .raised _ => false
  | _ => true

/-- What the daemon thread put down since `base`. -/
def Since (base posts ledger : List Posting) : Prop :=
  ∃ added, ledger = added ++ base ∧ added.filter Posting.isOwn = posts

/-- A round, with what the daemon thread puts down in it.  Where a stop was asked for
before, it opens no session and takes no request. -/
inductive Passes (asked : Prop) : Daemon → Daemon → List Posting → Prop
  | stopped {config events code} :
      Passes asked ⟨config, events, .stopped code⟩ ⟨config, events, .stopped code⟩ []
  | stop {config events} :
      Passes asked ⟨config, events, .head⟩ ⟨config, events, .stopped 0⟩ []
  | idle {config events} (hasked : ¬asked) :
      Passes asked ⟨config, events, .head⟩ ⟨config, events, .waiting⟩ []
  | inform {config events config' place posts} (hasked : ¬asked) (hplace : AfterInform place)
      (hposts : posts = [.opened events] ∨ posts = [.taken .reload, .opened events]) :
      Passes asked ⟨config, events, .head⟩ ⟨config', events, place⟩ posts
  | stopWaiting {config events config'} :
      Passes asked ⟨config, events, .waiting⟩ ⟨config', events, .stopped 0⟩ [.woke]
  | goOn {config events config' place} (hasked : ¬asked)
      (hplace : place = .waiting ∨ place = .overwrite (.woke .periodic)) :
      Passes asked ⟨config, events, .waiting⟩ ⟨config', events, place⟩ [.woke]
  | woken {config events config' request} (hasked : ¬asked) :
      Passes asked ⟨config, events, .waiting⟩
        ⟨config', events, .overwrite (.woke request.reason)⟩ [.taken request, .woke]
  | overwrite {config events cause} :
      Passes asked ⟨config, events, .overwrite cause⟩ ⟨config, cause.events, .head⟩ []

/-- What is known after a round. -/
def AfterRound (base : List Posting) (daemon daemon' : Daemon) (ledger : List Posting) : Prop :=
  ∃ posts, Since base posts ledger ∧ Passes (.raised .stop ∈ base) daemon daemon' posts ∧
    (daemon'.place = .stopped 0 → daemon.place = .stopped 0 ∨ .raised .stop ∈ ledger)

/-- What is known after a wait. -/
def WokenFor (base : List Posting) (reason : Option WakeReason) (ledger : List Posting) : Prop :=
  (reason = some .stop ∧ Since base [.woke] ledger ∧ .raised .stop ∈ ledger) ∨
    .raised .stop ∉ base ∧
      ((reason = none ∨ reason = some .periodic) ∧ Since base [.woke] ledger ∨
        ∃ request : Request, reason = some request.reason ∧
          Since base [.taken request, .woke] ledger)

section Round

variable {base posts ledger : List Posting} {config : DaemonConfig} {events : List String}

theorem since_refl (base : List Posting) : Since base [] base :=
  ⟨[], rfl, rfl⟩

theorem undisturbed_since : Undisturbed (Since base posts) := by
  rintro signal _ ⟨added, rfl, hposts⟩
  exact ⟨.raised signal :: added, rfl, hposts⟩

theorem Since.own {posting : Posting} (h : Since base posts ledger)
    (hown : posting.isOwn = true) : Since base (posting :: posts) (posting :: ledger) := by
  obtain ⟨added, rfl, rfl⟩ := h
  exact ⟨posting :: added, rfl, List.filter_cons_of_pos hown⟩

theorem Since.mem {posting : Posting} (h : Since base posts ledger) (hmem : posting ∈ base) :
    posting ∈ ledger := by
  obtain ⟨added, rfl, -⟩ := h
  exact List.mem_append_right _ hmem

/-- The daemon's own postings are counted in what it put down. -/
theorem Since.countP_eq (h : Since base posts ledger) {p : Posting → Bool}
    (hp : ∀ posting, p posting = true → posting.isOwn = true) :
    ledger.countP p = posts.countP p + base.countP p := by
  obtain ⟨added, rfl, rfl⟩ := h
  rw [List.countP_append, List.countP_filter]
  congr 1
  apply List.countP_congr
  intro posting _
  rw [Bool.and_eq_true]
  exact ⟨fun hposting => ⟨hposting, hp posting hposting⟩, And.left⟩

theorem undisturbed_wokenFor (reason : Option WakeReason) :
    Undisturbed (WokenFor base reason) := by
  rintro signal ledger (⟨hreason, hsince, hraised⟩ | ⟨hasked, ⟨hreason, hsince⟩ | hrequest⟩)
  · exact Or.inl ⟨hreason, undisturbed_since signal ledger hsince,
      List.mem_cons_of_mem _ hraised⟩
  · exact Or.inr ⟨hasked, Or.inl ⟨hreason, undisturbed_since signal ledger hsince⟩⟩
  · obtain ⟨request, hreason, hsince⟩ := hrequest
    exact Or.inr ⟨hasked, Or.inr ⟨request, hreason, undisturbed_since signal ledger hsince⟩⟩

theorem booking_wait (base : List Posting) :
    booking (waitForNextInform config) (fun result => WokenFor base result.1) base := by
  have hstage : Undisturbed fun ledger => .raised .stop ∉ base ∧ Since base [.woke] ledger :=
    fun signal ledger h => ⟨h.1, undisturbed_since signal ledger h.2⟩
  have hreason : ∀ signaled ledger, Since base [.woke] ledger →
      booking (wakeReason config signaled) (fun result => WokenFor base result.1) ledger := by
    intro signaled ledger h
    apply booking_wakeReason undisturbed_since (fun _ => hstage) (undisturbed_wokenFor _)
    · exact fun ledger hsince hraised => Or.inl ⟨rfl, hsince, hraised⟩
    · exact fun ledger hsince hraised => ⟨fun hasked => hraised (hsince.mem hasked), hsince⟩
    · exact fun request ledger h _ => Or.inr ⟨h.1, Or.inr ⟨request, rfl, h.2.own rfl⟩⟩
    · exact fun _ _ h _ => h
    · exact fun reason ledger hreason h => Or.inr ⟨h.1, Or.inl ⟨hreason, h.2⟩⟩
    · exact h
  exact booking_waitForNextInform undisturbed_since (fun _ h => h.own rfl) hreason
    (since_refl base)

/-- Every round is one of `Passes`. -/
theorem booking_round (daemon : Daemon) (base : List Posting) :
    booking daemon.round (AfterRound base daemon) base := by
  obtain ⟨config, events, place⟩ := daemon
  cases place with
  | head =>
      refine wp_bind.mpr (booking_ask undisturbed_since (since_refl base) ?_)
      intro stopped ledger hsince hstopped
      split
      -- a stop that was asked for ends the run here, before any session
      · rename_i hset
        have hraised : .raised .stop ∈ ledger := stop_flagsOf.mp (hstopped.symm.trans hset)
        refine wp_mono (booking_stop (undisturbed_since.and (undisturbed_mem _))
          ⟨hsince, hraised⟩) ?_
        rintro _ ledger ⟨rfl, hsince, hraised⟩
        exact ⟨[], hsince, .stop, fun _ => Or.inr hraised⟩
      rename_i hunset
      have hasked : .raised .stop ∉ base := fun hmem =>
        hunset (hstopped.trans (stop_flagsOf.mpr (hsince.mem hmem)))
      split
      -- with nothing to do for CWMP the daemon goes on to wait
      · have hidle : ∀ ledger, Since base [] ledger → AfterRound base ⟨config, events, .head⟩
            ⟨config, events, .waiting⟩ ledger :=
          fun ledger hsince => ⟨[], hsince, .idle hasked, fun hplace => Place.noConfusion hplace⟩
        split
        · refine wp_bind.mpr (wp_mono (booking_of_calls undisturbed_since hsince
            (calls_log unposted_log _ _)) ?_)
          intro _ ledger hsince
          exact hidle ledger hsince
        · exact hidle ledger hsince
      · -- a reload that was requested meanwhile may be taken
        have hopened : Undisturbed fun ledger => Since base [.opened events] ledger ∨
            Since base [.taken .reload, .opened events] ledger := by
          rintro signal ledger (hsince | hsince)
          · exact Or.inl (undisturbed_since signal ledger hsince)
          · exact Or.inr (undisturbed_since signal ledger hsince)
        refine wp_mono (booking_inform undisturbed_since undisturbed_since hopened
          (fun ledger h => h.own rfl) (fun ledger h _ => Or.inr (h.own rfl))
          (fun ledger h => Or.inl h) hsince) ?_
        rintro _ ledger ⟨hposts, config', place, rfl, hplace, hcode⟩
        rcases hposts with hsince | hsince
        · exact ⟨_, hsince, .inform hasked hplace (Or.inl rfl), fun h => Or.inr (hcode 0 h)⟩
        · exact ⟨_, hsince, .inform hasked hplace (Or.inr rfl), fun h => Or.inr (hcode 0 h)⟩
  -- a wait that ends has taken a request, or the time is up
  | waiting =>
      refine wp_bind.mpr (wp_mono (booking_wait base) ?_)
      rintro ⟨wake, config'⟩ ledger
        (⟨rfl, hsince, hraised⟩ | ⟨hasked, ⟨rfl | rfl, hsince⟩ | ⟨request, rfl, hsince⟩⟩)
      · refine wp_mono (booking_stop (undisturbed_since.and (undisturbed_mem _))
          ⟨hsince, hraised⟩) ?_
        rintro _ ledger ⟨rfl, hsince, hraised⟩
        exact ⟨_, hsince, .stopWaiting, fun _ => Or.inr hraised⟩
      · exact ⟨_, hsince, .goOn hasked (Or.inl rfl), fun hplace => Place.noConfusion hplace⟩
      · exact ⟨_, hsince, .goOn hasked (Or.inr rfl), fun hplace => Place.noConfusion hplace⟩
      · have hwoken : AfterRound base ⟨config, events, .waiting⟩
            ⟨config', events, .overwrite (.woke request.reason)⟩ ledger :=
          ⟨_, hsince, .woken hasked, fun hplace => Place.noConfusion hplace⟩
        cases request with
        | connection | reload | reconnect | informNow => exact hwoken
  | overwrite cause =>
      refine wp_bind.mpr (booking_ask undisturbed_since (since_refl base) ?_)
      intro _ ledger hsince _
      exact ⟨[], hsince, .overwrite, fun hplace => Place.noConfusion hplace⟩
  | stopped code => exact ⟨[], since_refl base, .stopped, Or.inl⟩

/-- The start puts nothing down. -/
theorem booking_start {I : List Posting → Prop} (hI : Undisturbed I) (h : I []) :
    booking Daemon.start (fun daemon ledger => I ledger ∧ (daemon.place = .stopped 1 ∨
      daemon.place = .head ∧ daemon.events = initialEvents daemon.config)) [] := by
  refine wp_bind.mpr (wp_mono (booking_of_calls hI h (unposted_refreshConfig _ _)) ?_)
  rintro ⟨config, changed⟩ ledger h
  dsimp only
  split
  · exact ⟨h, Or.inl rfl⟩
  refine wp_bind.mpr (wp_mono (booking_of_calls hI h (calls_restartConnectionRequestServer
    unposted_log (fun _ => rfl) (fun _ _ => rfl) config)) fun _ ledger h => ?_)
  refine wp_bind.mpr (wp_mono (booking_of_calls hI h (Prog.calls_ask (unposted_setState _))) ?_)
  intro _ ledger h
  have hassigned : ∀ events, Unposted (.assigned events) := fun _ _ => rfl
  refine wp_bind.mpr (wp_mono (booking_of_calls hI h (Prog.calls_ask (hassigned _))) ?_)
  intro _ ledger h
  exact ⟨h, Or.inr ⟨rfl, rfl⟩⟩

end Round

/-! ## Ledgers of the daemon's runs -/

/-- The events of a session of `run`. -/
def Posting.informed : Posting → Option (List String)
  | .opened events => some events
  | _ => none

def Entry.informed : Entry → Option (List String)
  | .session events _ _ => some events
  | _ => none

section Runs

variable {σ : Type} {setup : Setup σ}

/-- The flags decide a call, and what is put down of it says what they are then. -/
theorem decide_of_answerNow {c : DaemonCall} {ledger : List Posting} {flags : Flags}
    {answer : daemonCalls.Answer c} (h : Flags.AnswerNow c (flagsOf ledger) answer flags) :
    (flagsOf ledger).Decide c answer ∧ flags = flagsOf (postingsOf c answer ++ ledger) := by
  cases c with
  | stopRequested => exact ⟨h.2, h.1⟩
  | take request =>
      obtain ⟨hanswer, rfl⟩ := h
      refine ⟨hanswer, ?_⟩
      cases answer with
      | true => rfl
      | false =>
          have hsame : Function.update (flagsOf ledger).requested request false =
              (flagsOf ledger).requested :=
            Function.update_eq_self_iff.mpr hanswer
          show Flags.lower (flagsOf ledger) request = flagsOf ledger
          rw [Flags.lower, hsame]
  | wait timeout => exact ⟨⟨h.2.1, h.2.2⟩, h.1⟩
  | _ => exact ⟨trivial, h⟩

/-- The history and the ledger have the same sessions. -/
theorem informed_of_recorded {c : DaemonCall} {answer : daemonCalls.Answer c}
    {entries : List Entry} (h : Recorded setup c answer entries) :
    entries.filterMap Entry.informed = (postingsOf c answer).filterMap Posting.informed := by
  -- of all calls only a session has postings of its own that the history has too
  cases c with
  | readConfig target =>
      obtain ⟨-, rfl⟩ := h
      cases answer with
      | none | some => rfl
  | session http events =>
      obtain ⟨s, script, exchanges, -, rfl⟩ := h
      rfl
  | persist | download | reboot =>
      obtain ⟨-, rfl⟩ := h
      rfl
  | transferComplete http result =>
      obtain ⟨s, script, exchanges, -, rfl⟩ := h
      rfl
  | take request =>
      obtain rfl : entries = [] := h
      cases answer with
      | true | false => rfl
  | wait | assigned =>
      rw [show entries = _ from h]
      rfl
  | _ =>
      obtain rfl : entries = [] := h
      rfl

/-- The ledger belongs to the world. -/
structure Tells (ledger : List Posting) (world : World) : Prop where
  flags : world.flags = flagsOf ledger
  sessions : world.history.filterMap Entry.informed = ledger.filterMap Posting.informed

theorem exists_ledgered {α : Type} {program : DaemonProg α} {world world' : World} {value : α}
    (hexec : Exec (daemonEnv setup) program world value world') {ledger : List Posting}
    (htells : Tells ledger world) :
    ∃ ledger', Exec ledgerEnv program ledger value ledger' ∧ Tells ledger' world' := by
  induction hexec generalizing ledger with
  | done => exact ⟨ledger, .done, htells⟩
  | @call c _ world world₁ _ answer _ hcall _ ih =>
      obtain ⟨hanswer, entries, hrecorded, hhistory⟩ := hcall
      obtain ⟨signals, hnow⟩ := Flags.answer_iff.mp hanswer
      rw [htells.flags, ← flagsOf_signals] at hnow
      obtain ⟨hdecide, hflags⟩ := decide_of_answerNow hnow
      have hraised : (signals.map Posting.raised).filterMap Posting.informed = [] := by
        apply List.filterMap_eq_nil_iff.mpr
        intro posting hposting
        obtain ⟨signal, -, rfl⟩ := List.mem_map.mp hposting
        rfl
      have hsessions : world₁.history.filterMap Entry.informed =
          (postingsOf c answer ++ (signals.map Posting.raised ++ ledger)).filterMap
            Posting.informed := by
        rw [hhistory, List.filterMap_append, List.filterMap_append, List.filterMap_append,
          informed_of_recorded hrecorded, htells.sessions, hraised, List.nil_append]
      obtain ⟨ledger', hrest, htells'⟩ := ih ⟨hflags, hsessions⟩
      exact ⟨ledger', .call ⟨signals, hdecide, rfl⟩ hrest, htells'⟩

/-- Every run keeps a ledger. -/
theorem DaemonRun.exists_ledger {daemon : Daemon} {world : World}
    (hrun : Reached setup daemon world) :
    ∃ ledger, LedgerRun daemon ledger ∧ Tells ledger world := by
  induction hrun with
  | start hexec =>
      have hempty : Tells [] {} := ⟨rfl, rfl⟩
      obtain ⟨ledger, hexec, htells⟩ := exists_ledgered hexec hempty
      exact ⟨ledger, .start hexec, htells⟩
  | round _ _ hexec ih =>
      obtain ⟨ledger, hledger, htells⟩ := ih
      obtain ⟨ledger', hexec, htells'⟩ := exists_ledgered hexec htells
      exact ⟨ledger', .round hledger hexec, htells'⟩

end Runs

/-! ## Ledgers that can be computed -/

/-- The answers of a device that is bootstrapped, with these flags. -/
def quietAnswer (flags : Flags) : (c : DaemonCall) → daemonCalls.Answer c
  | .stopRequested => flags.stop
  | .take request => flags.requested request
  | .wait _ => flags.wake
  | .readConfig _ => some ({ acsUrl := "http://acs", bootstrapDone := true }, .info)
  | .stopServer => ()
  | .startServer _ => true
  | .setState _ => ()
  | .session _ _ => { success := true }
  | .persist _ => (true, true)
  | .download request _ => { commandKey := request.commandKey }
  | .transferComplete _ _ => true
  | .reboot _ _ => true
  | .sleep _ => ()
  | .log _ _ => ()
  | .assigned _ => ()

section Computed

variable (signals : List Posting → DaemonCall → List Signal)

/-- The signals before a call; an untimed wait ends with an `informNow`. -/
def signalsBefore (ledger : List Posting) : DaemonCall → List Signal
  | .wait none => .request .informNow :: signals ledger (.wait none)
  | c => signals ledger c

def ledgerHandler (c : DaemonCall) (ledger : List Posting) :
    daemonCalls.Answer c × List Posting :=
  let later := (signalsBefore signals ledger c).map .raised ++ ledger
  let answer := quietAnswer (flagsOf later) c
  (answer, postingsOf c answer ++ later)

theorem ledgerHandler_mem (c : DaemonCall) (ledger : List Posting) :
    ledgerEnv c ledger (ledgerHandler signals c ledger).1 (ledgerHandler signals c ledger).2 := by
  refine ⟨signalsBefore signals ledger c, ?_, rfl⟩
  cases c with
  | stopRequested | take => rfl
  | wait timeout =>
      refine ⟨rfl, ?_⟩
      rintro rfl
      show Flags.wake ((flagsOf _).after (.request .informNow)) = true
      simp [Flags.wake]
  | _ => trivial

/-- The daemon and the ledger after the start and some rounds. -/
def ledgerState : Nat → Daemon × List Posting
  | 0 => Daemon.start.run (ledgerHandler signals) []
  | n + 1 => (ledgerState n).1.round.run (ledgerHandler signals) (ledgerState n).2

theorem ledgerRun (n : Nat) :
    LedgerRun (ledgerState signals n).1 (ledgerState signals n).2 := by
  induction n with
  | zero => exact .start (exec_run (ledgerHandler_mem signals) _ _)
  | succ n ih => exact .round ih (exec_run (ledgerHandler_mem signals) _ _)

end Computed

end Tr069d
