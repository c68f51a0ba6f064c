import Tr069d.Daemon.Signals
import Tr069d.Effects.CondVar

/-!
# The wait for a request

`waitForNextInform` waits with `waitCv_` for an atomic flag.  The requests set
their flag and notify without `waitMutex_`, so that a request between the look at
the flags and the block is not heard.

* `waitCv` is the wait as a condition variable.  Its condition is that one of the five
  flags is set (`wake_iff`), and a wake-up is lost where the thread is blocked with one
  of them set and no notify to come (`lost_iff`).
* `not_lost_of_timely` says which notifies do no harm, `requestReload_lost` is one that
  does.
* Elsewhere the wait is one call, and what it answers is what the wait here can do
  (`answer_of_wait`).
-/

namespace Tr069d

open Effects

/-- The wait without a timeout; outside it the daemon thread makes its other calls. -/
def waitCv : CondVar Flags where
  wake flags := flags.wake = true
  own flags flags' := ∃ c answer, (∀ timeout, c ≠ .wait timeout) ∧
    Flags.AnswerNow c flags answer flags'
  store flags flags' := ∃ signal, flags' = flags.after signal

/-- The thread waits for one of the five flags. -/
theorem wake_iff {flags : Flags} :
    waitCv.wake flags ↔ flags.stop = true ∨ ∃ request, flags.requested request = true := by
  change flags.wake = true ↔ _
  simp only [Flags.wake, Bool.or_eq_true, or_assoc]
  refine or_congr_right ⟨?_, fun hrequested => ?_⟩
  · rintro (hconnection | hreload | hreconnect | hinformNow)
    · exact ⟨.connection, hconnection⟩
    · exact ⟨.reload, hreload⟩
    · exact ⟨.reconnect, hreconnect⟩
    · exact ⟨.informNow, hinformNow⟩
  · obtain ⟨request, hrequest⟩ := hrequested
    cases request with
    | connection => exact .inl hrequest
    | reload => exact .inr (.inl hrequest)
    | reconnect => exact .inr (.inr (.inl hrequest))
    | informNow => exact .inr (.inr (.inr hrequest))

/-- A wake-up is lost where the thread is blocked, one of the flags is set and no notify
is to come. -/
theorem lost_iff {ι : Type} {s : CondVar.State Flags ι} : waitCv.Lost s ↔
    s.phase = .blocked ∧ (s.flags.stop = true ∨ ∃ request, s.flags.requested request = true) ∧
      ∀ i, s.toNotify i = false := by
  rw [CondVar.Lost, wake_iff]

variable {ι : Type} [DecidableEq ι]

/-- A wait that ends is answered like the call of the model. -/
theorem answer_of_wait {s s' : CondVar.State Flags ι} (hwait : waitCv.Wait s s')
    (hended : s'.phase = .outside) : s.flags.Answer (.wait none) true s'.flags := by
  obtain ⟨hstores, hwake⟩ := hwait.ended
  have hraised : s.flags.Raised s'.flags := by
    generalize s'.flags = flags' at hstores
    induction hstores with
    | refl => exact Flags.Raised.refl _
    | tail _ hstore ih =>
        obtain ⟨signal, rfl⟩ := hstore
        exact ih.trans (Flags.raised_after _ signal)
  exact ⟨hraised, (hwake hended).symm, fun _ => rfl⟩

/-- No wake-up is lost if the last notify to come is not between the look at the
flags and the block. -/
theorem not_lost_of_timely {s : CondVar.State Flags ι} (hrun : waitCv.Run waitCv.Timely s) :
    ¬waitCv.Lost s :=
  hrun.not_lost

section Interleavings

open CondVar

/-- The thread has looked at flags that are not set. -/
theorem run_committed (guard : State Flags Unit → Action Unit → Prop)
    (hlock : ∀ s, guard s .lock) (hlook : ∀ s, guard s .look) :
    waitCv.Run guard { flags := {}, phase := .committed } := by
  have hlocked : waitCv.Run guard { flags := {}, phase := .locked } :=
    (Run.start {}).step (hlock _) (.lock (Or.inl rfl))
  have hsleep : ¬waitCv.wake {} := fun hwake => nomatch hwake
  exact hlocked.step (hlook _) (.commit rfl hsleep)

/-- `requestReload` between the look and the block: the flag is set, and nobody hears it. -/
theorem requestReload_lost : ∃ s : State Flags Unit,
    waitCv.Run (fun _ _ => True) s ∧ waitCv.Lost s := by
  have hcommitted := run_committed (fun _ _ => True) (fun _ => trivial) (fun _ => trivial)
  have hstored := hcommitted.step trivial (.store rfl ⟨.request .reload, rfl⟩ (i := ()))
  have hnotified := hstored.step trivial (.notify rfl (i := ()))
  have hblocked := hnotified.step trivial (.block rfl)
  exact ⟨_, hblocked, lost_iff.mpr ⟨rfl, .inr ⟨.reload, rfl⟩, fun _ => rfl⟩⟩

/-- Once the thread is blocked, the same request wakes it. -/
theorem requestReload_wakes : ∃ s : State Flags Unit,
    s.phase = .woken ∧ s.flags.requested .reload = true ∧ ¬waitCv.Lost s := by
  have hcommitted := run_committed waitCv.Timely (fun _ => trivial) (fun _ => trivial)
  have hblocked : waitCv.Run waitCv.Timely
      ({ flags := {}, phase := .blocked } : State Flags Unit) := by
    refine hcommitted.step ?_ (.block rfl)
    exact trivial
  have hstored : waitCv.Run waitCv.Timely (⟨Flags.after {} (.request .reload), .blocked,
      Function.update (fun _ => false) () true⟩ : State Flags Unit) := by
    refine hblocked.step ?_ (.store rfl ⟨_, rfl⟩)
    exact trivial
  have hnotified : waitCv.Run waitCv.Timely (⟨Flags.after {} (.request .reload), .woken,
      Function.update (Function.update (fun _ => false) () true) () false⟩ :
        State Flags Unit) := by
    refine hstored.step ?_ (.notify rfl)
    exact fun hphase => nomatch hphase
  exact ⟨_, rfl, rfl, not_lost_of_timely hnotified⟩

end Interleavings

end Tr069d
