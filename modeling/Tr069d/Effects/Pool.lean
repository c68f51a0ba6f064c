import Mathlib.Logic.Function.Basic
import Tr069d.Effects.Prog

/-!
# Programs that share an environment

A `Pool` holds a program per client and the state they share.  Each call of a
program is atomic, and the calls of different clients are interleaved in any
order (`Pool.Step`, `Pool.Run`).  A client first starts, which touches nothing:
between its start and its result it is `InProgress`.

`Pool.Run.invariant` is the induction over a run, and `Pool.run_turn` builds runs
out of the executions of single programs.
-/

namespace Effects

variable {ι : Type} {sig : Signature} {α σ : Type}

/-- A client: its program, before and after it started. -/
inductive Thread (sig : Signature) (α : Type) : Type
  | waiting (program : Prog sig α)
  | running (program : Prog sig α)

structure Pool (ι : Type) (sig : Signature) (α σ : Type) where
  threads : ι → Thread sig α
  state : σ

namespace Pool

/-- Client `i` started and has not returned. -/
def InProgress (pool : Pool ι sig α σ) (i : ι) : Prop :=
  ∃ c next, pool.threads i = .running (.call c next)

/-- Client `i` returned `value`. -/
def Returned (pool : Pool ι sig α σ) (i : ι) (value : α) : Prop :=
  pool.threads i = .running (.done value)

variable [DecidableEq ι]

def setThread (pool : Pool ι sig α σ) (i : ι) (program : Prog sig α) (state : σ) :
    Pool ι sig α σ where
  threads := Function.update pool.threads i (.running program)
  state := state

/-- A step of client `i`: it starts, or its next call is answered. -/
inductive Step (env : Env sig σ) (pool : Pool ι sig α σ) (i : ι) : Pool ι sig α σ → Prop
  | start {program : Prog sig α} (hthread : pool.threads i = .waiting program) :
      Step env pool i (pool.setThread i program pool.state)
  | call {c : sig.Call} {next : sig.Answer c → Prog sig α} {answer : sig.Answer c} {state : σ}
      (hthread : pool.threads i = .running (.call c next))
      (hcall : env c pool.state answer state) :
      Step env pool i (pool.setThread i (next answer) state)

/-- A run: a sequence of steps of any clients, each allowed by `guard` in the
pool it is taken in. -/
inductive Run (env : Env sig σ) (guard : Pool ι sig α σ → ι → Prop) (initial : Pool ι sig α σ) :
    Pool ι sig α σ → Prop
  | refl : Run env guard initial initial
  | step {pool pool' : Pool ι sig α σ} {i : ι} :
      Run env guard initial pool → guard pool i → Step env pool i pool' →
        Run env guard initial pool'

/-- Clients in `critical` do not overlap: such a client starts only while no
other is in progress. -/
def Exclusive (critical : ι → Prop) (pool : Pool ι sig α σ) (i : ι) : Prop :=
  critical i → (∃ program, pool.threads i = .waiting program) →
    ∀ j, critical j → ¬ pool.InProgress j

variable {env : Env sig σ} {guard : Pool ι sig α σ → ι → Prop} {initial pool pool' : Pool ι sig α σ}
  {i j : ι}

@[simp] theorem setThread_threads_self (pool : Pool ι sig α σ) (i : ι) (program : Prog sig α)
    (state : σ) : (pool.setThread i program state).threads i = .running program := by
  simp [setThread]

theorem setThread_threads_of_ne (pool : Pool ι sig α σ) (program : Prog sig α) (state : σ)
    (h : j ≠ i) : (pool.setThread i program state).threads j = pool.threads j := by
  simp [setThread, h]

@[simp] theorem setThread_state (pool : Pool ι sig α σ) (i : ι) (program : Prog sig α)
    (state : σ) : (pool.setThread i program state).state = state := rfl

/-- What every step preserves, a run preserves. -/
theorem Run.invariant {I : Pool ι sig α σ → Prop}
    (hpreserve : ∀ pool i pool', I pool → guard pool i → Step env pool i pool' → I pool')
    (hrun : Run env guard initial pool) (hinitial : I initial) : I pool := by
  induction hrun with
  | refl => exact hinitial
  | step _ hguard hstep ih => exact hpreserve _ _ _ ih hguard hstep

theorem Run.trans {final : Pool ι sig α σ} (h : Run env guard initial pool)
    (h' : Run env guard pool final) : Run env guard initial final := by
  induction h' with
  | refl => exact h
  | step _ hguard hstep ih => exact .step ih hguard hstep

/-! ## Building runs -/

/-- Up to `fuel` calls of a program, while a handler answers them. -/
def advance (handler : (c : sig.Call) → σ → Option (sig.Answer c × σ)) :
    Nat → Prog sig α → σ → Prog sig α × σ
  | 0, program, s => (program, s)
  | _ + 1, .done value, s => (.done value, s)
  | fuel + 1, .call c next, s =>
      match handler c s with
      | none => (.call c next, s)
      | some (answer, s') => advance handler fuel (next answer) s'

/-- Client `i` makes calls, while the others wait. -/
theorem run_advance {handler : (c : sig.Call) → σ → Option (sig.Answer c × σ)}
    (hhandler : ∀ c s answer s', handler c s = some (answer, s') → env c s answer s')
    (hguard : ∀ pool' : Pool ι sig α σ, (∀ j, j ≠ i → pool'.threads j = pool.threads j) →
      pool'.InProgress i → guard pool' i)
    (fuel : Nat) {program : Prog sig α} (hthread : pool.threads i = .running program) :
    Run env guard pool (pool.setThread i (advance handler fuel program pool.state).1
      (advance handler fuel program pool.state).2) := by
  have hsame : ∀ {pool : Pool ι sig α σ} {program : Prog sig α},
      pool.threads i = .running program → pool.setThread i program pool.state = pool := by
    intro pool program hthread
    simp [setThread, ← hthread]
  -- on the fuel: each call that the handler answers is one step of the pool
  induction fuel generalizing pool program with
  | zero => simpa only [advance, hsame hthread] using Run.refl
  | succ fuel ih =>
      cases program with
      | done value => simpa only [advance, hsame hthread] using Run.refl
      | call c next =>
          rw [advance]
          cases hanswer : handler c pool.state with
          | none => simpa only [hsame hthread] using Run.refl
          | some result =>
              obtain ⟨answer, s'⟩ := result
              have hstep : Step env pool i (pool.setThread i (next answer) s') :=
                .call hthread (hhandler c pool.state answer s' hanswer)
              have hfirst : Run env guard pool _ :=
                .step .refl (hguard pool (fun _ _ => rfl) ⟨c, next, hthread⟩) hstep
              -- the other threads are where they were, so the guard holds for the rest too
              have hrest := ih (fun pool' hothers => hguard pool' fun j hj =>
                (hothers j hj).trans (setThread_threads_of_ne pool _ _ hj))
                (setThread_threads_self pool i (next answer) s')
              simp only [setThread_state] at hrest
              refine hfirst.trans ?_
              simpa only [setThread, Function.update_idem] using hrest

/-- A turn of client `i`: it starts if it waits, and makes up to `fuel` calls. -/
def turn (handler : (c : sig.Call) → σ → sig.Answer c × σ) (fuel : Nat) (i : ι)
    (pool : Pool ι sig α σ) : Pool ι sig α σ :=
  match pool.threads i with
  | .waiting program | .running program =>
      pool.setThread i (advance (fun c s => some (handler c s)) fuel program pool.state).1
        (advance (fun c s => some (handler c s)) fuel program pool.state).2

theorem run_turn {handler : (c : sig.Call) → σ → sig.Answer c × σ}
    (hhandler : ∀ c s, env c s (handler c s).1 (handler c s).2)
    (hguard : ∀ pool i, pool.InProgress i → guard pool i)
    (fuel : Nat) (hstart : guard pool i) : Run env guard pool (pool.turn handler fuel i) := by
  have hanswers : ∀ c s answer s', some (handler c s) = some (answer, s') →
      env c s answer s' := by
    intro c s answer s' hanswer
    have h := hhandler c s
    rwa [Option.some.inj hanswer] at h
  cases hthread : pool.threads i with
  | running program =>
      simp only [turn, hthread]
      exact run_advance hanswers (fun pool' _ => hguard pool' i) fuel hthread
  | waiting program =>
      have hfirst : Run env guard pool (pool.setThread i program pool.state) :=
        .step .refl hstart (.start hthread)
      have hrest := run_advance hanswers (fun pool' _ => hguard pool' i) fuel
        (setThread_threads_self pool i program pool.state)
      simp only [turn, hthread]
      refine hfirst.trans ?_
      simpa only [setThread, Function.update_idem] using hrest

omit [DecidableEq ι] in
theorem exclusive_of_inProgress {critical : ι → Prop} (pool : Pool ι sig α σ) (i : ι)
    (h : pool.InProgress i) : Exclusive critical pool i := by
  rintro _ ⟨program, hwaiting⟩
  obtain ⟨c, next, hthread⟩ := h
  rw [hthread] at hwaiting
  cases hwaiting

end Pool

end Effects
