import Mathlib.Logic.Function.Basic
import Mathlib.Logic.Relation

/-!
# A wait for flags that are set without its mutex

One thread waits with a condition variable: it locks the mutex, looks whether the
shared flags let it pass, and else releases the mutex and blocks, in one step.
The others set a flag and then notify, and they do not take the mutex, so that
both steps can fall between the look and the block.  A notify wakes a thread that
is blocked already, and no other.

A run whose notifies are all `Timely` loses no wake-up (`Run.not_lost`), and
after one that is not, blocking loses it (`lost_of_untimely`).  What a wait that
ends has done to the flags is what the others stored (`Wait.ended`).
-/

namespace Effects

/-- The flags that the threads share, and what is done to them. -/
structure CondVar (φ : Type) where
  /-- The condition of the wait. -/
  wake : φ → Prop
  /-- The steps of the waiting thread while it is not in the wait. -/
  own : φ → φ → Prop
  /-- The steps of the others before they notify. -/
  store : φ → φ → Prop

namespace CondVar

/-- Where the waiting thread is. -/
inductive Phase
  | outside
  /-- It has the mutex and will look at the flags. -/
  | locked
  /-- It has looked, and will block. -/
  | committed
  | blocked
  /-- It was notified, and will lock the mutex once more. -/
  | woken
  deriving DecidableEq, Repr

structure State (φ ι : Type) where
  flags : φ
  phase : Phase := .outside
  /-- The others that have stored and not notified yet. -/
  toNotify : ι → Bool := fun _ => false

inductive Action (ι : Type)
  | own
  | lock
  | look
  | block
  | store (i : ι)
  | notify (i : ι)

variable {φ ι : Type} [DecidableEq ι] (cv : CondVar φ)

inductive Step : State φ ι → Action ι → State φ ι → Prop
  | own {s flags} (hphase : s.phase = .outside) (hown : cv.own s.flags flags) :
      Step s .own { s with flags := flags }
  | lock {s} (hphase : s.phase = .outside ∨ s.phase = .woken) :
      Step s .lock { s with phase := .locked }
  | pass {s} (hphase : s.phase = .locked) (hwake : cv.wake s.flags) :
      Step s .look { s with phase := .outside }
  | commit {s} (hphase : s.phase = .locked) (hsleep : ¬cv.wake s.flags) :
      Step s .look { s with phase := .committed }
  | block {s} (hphase : s.phase = .committed) : Step s .block { s with phase := .blocked }
  | store {s flags i} (hidle : s.toNotify i = false) (hstore : cv.store s.flags flags) :
      Step s (.store i) { s with flags := flags, toNotify := Function.update s.toNotify i true }
  | notify {s i} (hstored : s.toNotify i = true) :
      Step s (.notify i)
        { s with
          toNotify := Function.update s.toNotify i false
          phase := if s.phase = .blocked then .woken else s.phase }

/-- One wait: from the lock on, while the thread is in it, up to its end. -/
inductive Wait : State φ ι → State φ ι → Prop
  | enter {s s'} (hphase : s.phase = .outside) (hstep : cv.Step s .lock s') : Wait s s'
  | step {s s' action s''} (hwait : Wait s s') (hphase : s'.phase ≠ .outside)
      (hstep : cv.Step s' action s'') : Wait s s''

/-- A run from any flags, whose steps are all allowed by `guard`. -/
inductive Run (guard : State φ ι → Action ι → Prop) : State φ ι → Prop
  | start (flags : φ) : Run guard { flags := flags }
  | step {s action s'} (hrun : Run guard s) (hguard : guard s action)
      (hstep : cv.Step s action s') : Run guard s'

/-- The thread is blocked, though its condition holds, and nobody will notify it. -/
def Lost (s : State φ ι) : Prop :=
  s.phase = .blocked ∧ cv.wake s.flags ∧ ∀ i, s.toNotify i = false

/-- A notify between the look and the block is not the last one to come, unless
no flag is set. -/
def Timely (s : State φ ι) : Action ι → Prop
  | .notify i => s.phase = .committed → cv.wake s.flags → ∃ j, j ≠ i ∧ s.toNotify j = true
  | _ => True

variable {cv}

/-- Once the thread has looked and seen no flag, a flag is there only with a
notify to come. -/
def Announced (cv : CondVar φ) (s : State φ ι) : Prop :=
  s.phase = .committed ∨ s.phase = .blocked → cv.wake s.flags → ∃ i, s.toNotify i = true

/-- A timely step keeps the flags announced. -/
theorem Step.announced {s s' : State φ ι} {action : Action ι} (hstep : cv.Step s action s')
    (hannounced : cv.Announced s) (htimely : cv.Timely s action) : cv.Announced s' := by
  intro hphase' hwake
  cases hstep with
  | own hphase _ => simp [hphase] at hphase'
  | lock _ => simp at hphase'
  | pass _ _ => simp at hphase'
  | commit _ hsleep => exact absurd hwake hsleep
  | block hphase => exact hannounced (Or.inl hphase) hwake
  | store _ _ => exact ⟨_, Function.update_self ..⟩
  | @notify i hstored =>
      have hphase : s.phase = .committed := by
        by_cases hblocked : s.phase = .blocked
        · simp [hblocked] at hphase'
        · simpa [hblocked] using hphase'
      obtain ⟨j, hother, hj⟩ := htimely hphase hwake
      exact ⟨j, by simpa [hother] using hj⟩

/-- If no notify comes too early to be heard, no wake-up is lost. -/
theorem Run.not_lost {s : State φ ι} (hrun : cv.Run cv.Timely s) : ¬cv.Lost s := by
  have hannounced : cv.Announced s := by
    induction hrun with
    | start flags => exact fun hphase => absurd hphase (by simp)
    | step _ htimely hstep ih => exact hstep.announced ih htimely
  rintro ⟨hblocked, hwake, hnone⟩
  obtain ⟨i, hi⟩ := hannounced (Or.inr hblocked) hwake
  exact Bool.noConfusion (hi.symm.trans (hnone i))

/-- After a notify that is not timely the wake-up is lost, if the thread blocks next. -/
theorem lost_of_untimely {s s' s'' : State φ ι} {i : ι} (hnotify : cv.Step s (.notify i) s')
    (huntimely : ¬cv.Timely s (.notify i)) (hblock : cv.Step s' .block s'') : cv.Lost s'' := by
  cases hnotify
  cases hblock
  simp only [Timely, not_forall, not_exists, not_and, Bool.not_eq_true] at huntimely
  obtain ⟨_, hwake, hnone⟩ := huntimely
  refine ⟨rfl, hwake, fun j => ?_⟩
  by_cases hsame : j = i
  · simp [hsame]
  · simpa [hsame] using hnone j hsame

theorem Wait.ended {s s' : State φ ι} (hwait : cv.Wait s s') :
    Relation.ReflTransGen cv.store s.flags s'.flags ∧
      (s'.phase = .outside → cv.wake s'.flags) := by
  induction hwait with
  | enter _ hstep =>
      cases hstep
      exact ⟨.refl, nofun⟩
  | step _ hphase hstep ih =>
      obtain ⟨hstores, hended⟩ := ih
      cases hstep with
      | own houtside _ => exact absurd houtside hphase
      | lock _ => exact ⟨hstores, nofun⟩
      | pass _ hwake => exact ⟨hstores, fun _ => hwake⟩
      | commit _ _ => exact ⟨hstores, nofun⟩
      | block _ => exact ⟨hstores, nofun⟩
      | store _ hstore => exact ⟨hstores.tail hstore, fun houtside => absurd houtside hphase⟩
      | notify _ =>
          refine ⟨hstores, fun houtside => ?_⟩
          dsimp only at houtside
          split at houtside
          · cases houtside
          · exact absurd houtside hphase

end CondVar

end Effects
