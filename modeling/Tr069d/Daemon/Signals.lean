import Tr069d.Daemon.Changes

/-!
# Runs with the requests of other threads

`requestReload` and its like only set a flag, so that the flags alone do not say
when, or how often, something was requested.  Here a run is marked with every
request, at its place among the calls of the daemon thread.  Every run can be
marked (`DaemonRun.exists_marks`), and a marked run is a run
(`SignalledRun.reached`).

A configuration is marked as read in the form in which `refreshConfig` keeps it: where
an empty ACS URL is read back, the previous URL stays in place and counts as read.
-/

namespace Tr069d

open Effects Daemon

/-! ## Requests -/

/-- What another thread does: `requestStop`, or one of the four requests. -/
inductive Signal
  | stop
  | request (request : Request)
  deriving DecidableEq, Repr

namespace Flags

def after (flags : Flags) : Signal → Flags
  | .stop => { flags with stop := true }
  | .request request =>
      { flags with requested := Function.update flags.requested request true }

/-- The flags after some signals, the newest first. -/
def afterAll (flags : Flags) (signals : List Signal) : Flags :=
  signals.foldr (fun signal flags => flags.after signal) flags

/-- How the flags answer a call, if nobody raises one in the meantime. -/
def AnswerNow : (c : DaemonCall) → Flags → daemonCalls.Answer c → Flags → Prop
  | .stopRequested, flags, answer, flags' => flags' = flags ∧ answer = flags.stop
  | .take request, flags, answer, flags' =>
      answer = flags.requested request ∧ flags' = flags.lower request
  | .wait timeout, flags, answer, flags' => flags' = flags ∧ answer = flags.wake ∧
      (timeout = none → answer = true)
  | _, flags, _, flags' => flags' = flags

theorem Raised.refl (flags : Flags) : flags.Raised flags :=
  ⟨id, fun _ => id⟩

theorem Raised.trans {flags flags' flags'' : Flags} (h : flags.Raised flags')
    (h' : flags'.Raised flags'') : flags.Raised flags'' :=
  ⟨fun hstop => h'.1 (h.1 hstop), fun request hset => h'.2 request (h.2 request hset)⟩

theorem raised_after (flags : Flags) (signal : Signal) : flags.Raised (flags.after signal) := by
  cases signal with
  | stop => exact ⟨fun _ => rfl, fun _ => id⟩
  | request request =>
      refine ⟨id, fun other hset => ?_⟩
      by_cases hsame : other = request
      · simp [after, hsame]
      · simpa [after, Function.update_of_ne hsame] using hset

theorem raised_afterAll (flags : Flags) (signals : List Signal) :
    flags.Raised (flags.afterAll signals) := by
  induction signals with
  | nil => exact Raised.refl flags
  | cons signal signals ih => exact ih.trans (raised_after _ signal)

/-- The signals that raise the flags of `raised`. -/
def signalsOf (raised : Flags) : List Signal :=
  (if raised.stop then [.stop] else []) ++
    ([.connection, .reload, .reconnect, .informNow].filter raised.requested).map .request

theorem afterAll_requests (flags : Flags) (requests : List Request) (request : Request) :
    (flags.afterAll (requests.map .request)).requested request =
      (decide (request ∈ requests) || flags.requested request) := by
  induction requests with
  | nil => simp [afterAll]
  | cons first requests ih =>
      have hstep : flags.afterAll ((first :: requests).map .request) =
          (flags.afterAll (requests.map .request)).after (.request first) := rfl
      rw [hstep]
      by_cases hsame : request = first
      · simp [after, hsame]
      · simp [after, ih, hsame]

theorem afterAll_append (flags : Flags) (newer older : List Signal) :
    flags.afterAll (newer ++ older) = (flags.afterAll older).afterAll newer :=
  List.foldr_append

/-- Flags that were raised were raised by signals. -/
theorem afterAll_signalsOf {flags raised : Flags} (h : flags.Raised raised) :
    flags.afterAll (signalsOf raised) = raised := by
  -- the requests do not touch the stop flag, which comes first in the list
  have hstop : ∀ requests : List Request,
      (flags.afterAll (requests.map .request)).stop = flags.stop := by
    intro requests
    induction requests with
    | nil => rfl
    | cons first requests ih => exact ih
  -- a request is in the list exactly if it was raised, and none was lowered
  have hrequested : ∀ request, (flags.afterAll (([.connection, .reload, .reconnect,
      .informNow].filter raised.requested).map .request)).requested request =
        raised.requested request := by
    intro request
    rw [afterAll_requests, Bool.eq_iff_iff]
    simp only [Bool.or_eq_true, decide_eq_true_eq, List.mem_filter]
    constructor
    · rintro (hmem | hset)
      · exact hmem.2
      · exact h.2 request hset
    · intro hset
      exact Or.inl ⟨by cases request <;> decide, hset⟩
  obtain ⟨stop, requested⟩ := raised
  rw [signalsOf, afterAll_append]
  generalize hlater : flags.afterAll _ = later at hrequested
  have hsame : later.stop = flags.stop := by
    rw [← hlater, hstop]
  obtain ⟨laterStop, laterRequested⟩ := later
  obtain rfl : laterRequested = requested := funext hrequested
  obtain rfl : laterStop = flags.stop := hsame
  cases stop with
  | true => rfl
  | false =>
      have hunset : flags.stop = false := Bool.eq_false_iff.mpr fun hset => nomatch h.1 hset
      simp [afterAll, hunset]

/-- Answering while others raise flags is answering after their signals. -/
theorem answer_iff {c : DaemonCall} {flags flags' : Flags} {answer : daemonCalls.Answer c} :
    flags.Answer c answer flags' ↔
      ∃ signals, AnswerNow c (flags.afterAll signals) answer flags' := by
  constructor
  · intro h
    -- what the others raised is taken to happen just before the call
    cases c with
    | stopRequested =>
        refine ⟨signalsOf flags', ?_⟩
        rw [afterAll_signalsOf h.1]
        exact ⟨rfl, h.2⟩
    | take request =>
        obtain ⟨raised, hraised, hanswer⟩ := h
        refine ⟨signalsOf raised, ?_⟩
        rwa [afterAll_signalsOf hraised]
    | wait timeout =>
        refine ⟨signalsOf flags', ?_⟩
        rw [afterAll_signalsOf h.1]
        exact ⟨rfl, h.2⟩
    | _ =>
        refine ⟨signalsOf flags', ?_⟩
        rw [afterAll_signalsOf h]
        exact rfl
  · rintro ⟨signals, h⟩
    have hraised := raised_afterAll flags signals
    cases c with
    | stopRequested =>
        obtain ⟨rfl, hanswer⟩ := h
        exact ⟨hraised, hanswer⟩
    | take request => exact ⟨_, hraised, h⟩
    | wait timeout =>
        obtain ⟨rfl, hanswer⟩ := h
        exact ⟨hraised, hanswer⟩
    | _ =>
        obtain rfl : flags' = flags.afterAll signals := h
        exact hraised

end Flags

/-! ## Marks -/

/-- The HTTP configuration of a session. -/
def httpConfig (config : DaemonConfig) : HttpConfig where
  url := config.acsUrl
  username := config.acsUsername
  password := config.acsPassword
  caFile := config.caFile
  insecureTls := config.insecureTls

/-- What is marked of a run, the newest first. -/
inductive Mark
  /-- Another thread set a flag. -/
  | signal (signal : Signal)
  /-- `readConfig` was called, and `config_` becomes this configuration: what was read,
  with the previous ACS URL if the one that was read is empty. -/
  | read (updated : DaemonConfig)
  /-- A wait ended. -/
  | woke
  /-- The list of events was assigned, with which an iteration of the loop ends. -/
  | assigned
  /-- A session was opened, also one that reports a download. -/
  | opened (http : HttpConfig)
  deriving DecidableEq, Repr

/-- What is marked of a call.  The previous ACS URL that a refresh preserves counts as
read. -/
def markOf : (c : DaemonCall) → daemonCalls.Answer c → List Mark
  | .readConfig previous, answer =>
      (answer.map fun read => Mark.read (keptUrl previous read.1)).toList
  | .wait _, _ => [.woke]
  | .assigned _, _ => [.assigned]
  | .session http _, _ => [.opened http]
  | .transferComplete http _, _ => [.opened http]
  | _, _ => []

variable {σ : Type} (setup : Setup σ)

/-- The surroundings of the daemon thread, with marks. -/
def signalledEnv : Env daemonCalls (World × List Mark) := fun c s answer s' =>
  ∃ signals, Flags.AnswerNow c (s.1.flags.afterAll signals) answer s'.1.flags ∧
    (∃ entries, Recorded setup c answer entries ∧ s'.1.history = entries ++ s.1.history) ∧
    s'.2 = markOf c answer ++ (signals.map .signal ++ s.2)

/-- A marked run in which every round starts in a state that meets `guard`. -/
inductive SignalledRun (guard : Daemon → List Mark → Prop) : Daemon → World → List Mark → Prop
  | start {daemon world marks}
      (hexec : Exec (signalledEnv setup) Daemon.start ({}, []) daemon (world, marks)) :
      SignalledRun guard daemon world marks
  | round {daemon world marks daemon' world' marks'}
      (hrun : SignalledRun guard daemon world marks) (hguard : guard daemon marks)
      (hexec : Exec (signalledEnv setup) daemon.round (world, marks) daemon' (world', marks')) :
      SignalledRun guard daemon' world' marks'

variable {setup}

/-- Marking changes nothing. -/
theorem exec_of_signalled {α : Type} {program : DaemonProg α} {s s' : World × List Mark}
    {value : α} (hexec : Exec (signalledEnv setup) program s value s') :
    Exec (daemonEnv setup) program s.1 value s'.1 := by
  refine hexec.map (f := Prod.fst) ?_
  rintro c s answer s' ⟨signals, hanswer, hrecorded, -⟩
  exact ⟨Flags.answer_iff.mpr ⟨signals, hanswer⟩, hrecorded⟩

theorem exists_signalled {α : Type} {program : DaemonProg α} {world world' : World} {value : α}
    (hexec : Exec (daemonEnv setup) program world value world') (marks : List Mark) :
    ∃ marks', Exec (signalledEnv setup) program (world, marks) value (world', marks') := by
  induction hexec generalizing marks with
  | done => exact ⟨marks, .done⟩
  | @call c _ world world₁ _ answer _ hcall _ ih =>
      obtain ⟨hanswer, hrecorded⟩ := hcall
      obtain ⟨signals, hnow⟩ := Flags.answer_iff.mp hanswer
      obtain ⟨marks', hrest⟩ := ih (markOf c answer ++ (signals.map .signal ++ marks))
      have hfirst : signalledEnv setup c (world, marks) answer
          (world₁, markOf c answer ++ (signals.map .signal ++ marks)) :=
        ⟨signals, hnow, hrecorded, rfl⟩
      exact ⟨marks', .call hfirst hrest⟩

theorem SignalledRun.reached {guard : Daemon → List Mark → Prop} {daemon : Daemon}
    {world : World} {marks : List Mark} (hrun : SignalledRun setup guard daemon world marks) :
    Reached setup daemon world := by
  induction hrun with
  | start hexec => exact .start (exec_of_signalled hexec)
  | round _ _ hexec ih => exact .round ih trivial (exec_of_signalled hexec)

/-- Every run can be marked. -/
theorem DaemonRun.exists_marks {daemon : Daemon} {world : World}
    (hrun : Reached setup daemon world) :
    ∃ marks, SignalledRun setup (fun _ _ => True) daemon world marks := by
  induction hrun with
  | start hexec =>
      obtain ⟨marks, hexec⟩ := exists_signalled hexec []
      exact ⟨marks, .start hexec⟩
  | round _ _ hexec ih =>
      obtain ⟨marks, hmarked⟩ := ih
      obtain ⟨marks', hexec⟩ := exists_signalled hexec marks
      exact ⟨marks', .round hmarked trivial hexec⟩

/-! ## Marked runs that can be computed -/

namespace Scenario

variable (scenario : Scenario σ) (signals : List Mark → DaemonCall → List Signal)

/-- The signals before a call; an untimed wait ends with an `informNow` at the latest. -/
def signalsAt (world : World) (marks : List Mark) : DaemonCall → List Signal
  | .wait none =>
      if (world.flags.afterAll (signals marks (.wait none))).wake then signals marks (.wait none)
      else .request .informNow :: signals marks (.wait none)
  | c => signals marks c

/-- The answers of the scenario amid the signals of other threads. -/
def signalledHandler (c : DaemonCall) (s : World × List Mark) :
    daemonCalls.Answer c × (World × List Mark) :=
  let before := signalsAt signals s.1 s.2 c
  let result := scenario.handler c { s.1 with flags := s.1.flags.afterAll before }
  (result.1, result.2, markOf c result.1 ++ (before.map .signal ++ s.2))

theorem signalledHandler_mem (c : DaemonCall) (s : World × List Mark) :
    signalledEnv scenario.setup c s (scenario.signalledHandler signals c s).1
      (scenario.signalledHandler signals c s).2 := by
  -- a wait without a time limit ends by a flag, which the handler raises if none is set
  have hwait : ∀ timeout, wakeUp timeout
      (s.1.flags.afterAll (signalsAt signals s.1 s.2 (.wait timeout))) =
        s.1.flags.afterAll (signalsAt signals s.1 s.2 (.wait timeout)) := by
    intro timeout
    cases timeout with
    | some seconds => rfl
    | none =>
        have hwake : (s.1.flags.afterAll (signalsAt signals s.1 s.2 (.wait none))).wake =
            true := by
          simp only [signalsAt]
          split_ifs with hwake
          · exact hwake
          · simp [Flags.afterAll, Flags.after, Flags.wake]
        simp [wakeUp, hwake]
  -- the other answers are those of the scenario without signals
  obtain ⟨-, hrecorded⟩ := scenario.handler_mem_daemonEnv c
    { s.1 with flags := s.1.flags.afterAll (signalsAt signals s.1 s.2 c) }
  refine ⟨signalsAt signals s.1 s.2 c, ?_, hrecorded, rfl⟩
  cases c with
  | stopRequested => exact ⟨rfl, rfl⟩
  | take request => exact ⟨rfl, rfl⟩
  | wait timeout =>
      refine ⟨hwait timeout, ?_, fun hnone => wake_wakeUp hnone _⟩
      exact congrArg Flags.wake (hwait timeout)
  | _ => rfl

/-- The daemon, the world and the marks after the start and some rounds. -/
def signalledState : Nat → Daemon × (World × List Mark)
  | 0 => Daemon.start.run (scenario.signalledHandler signals) ({}, [])
  | n + 1 =>
      (signalledState n).1.round.run (scenario.signalledHandler signals) (signalledState n).2

theorem signalledRun {guard : Daemon → List Mark → Prop} (n : Nat)
    (hguard : ∀ m < n, guard (scenario.signalledState signals m).1
      (scenario.signalledState signals m).2.2) :
    SignalledRun scenario.setup guard (scenario.signalledState signals n).1
      (scenario.signalledState signals n).2.1 (scenario.signalledState signals n).2.2 := by
  induction n with
  | zero => exact .start (exec_run (scenario.signalledHandler_mem signals) _ _)
  | succ n ih =>
      have hrun := ih fun m hm => hguard m (Nat.lt_succ_of_lt hm)
      exact .round hrun (hguard n (Nat.lt_succ_self n))
        (exec_run (scenario.signalledHandler_mem signals) _ _)

end Scenario

end Tr069d
