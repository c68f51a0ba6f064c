import Mathlib.Tactic.Common

/-!
# Programs that call an environment

A `Prog` is a finite tree of calls into an environment, over a signature that
says which calls there are and what each one answers.  The same program is read
in several ways: run against one deterministic handler (`Prog.run`), or against
every behaviour an environment allows (`Exec`), with `wp` as the precondition
of a postcondition under all those behaviours, which also bounds the calls the
program may make.

Everything is over an arbitrary signature and an arbitrary state.
-/

namespace Effects

/-- The calls a program may make, and the type of the answer to each. -/
structure Signature where
  Call : Type
  Answer : Call → Type

/-- A program over `sig`: a result, or a call and what to do with its answer. -/
inductive Prog (sig : Signature) (α : Type) : Type
  | done (value : α) : Prog sig α
  | call (c : sig.Call) (next : sig.Answer c → Prog sig α) : Prog sig α

namespace Prog

variable {sig : Signature} {α β γ σ : Type}

protected def bind : Prog sig α → (α → Prog sig β) → Prog sig β
  | .done value, f => f value
  | .call c next, f => .call c fun answer => (next answer).bind f

instance : Monad (Prog sig) where
  pure := .done
  bind := Prog.bind

/-- The program that makes one call and returns its answer. -/
def ask (c : sig.Call) : Prog sig (sig.Answer c) :=
  .call c .done

@[simp] theorem pure_eq_done (value : α) : (pure value : Prog sig α) = .done value := rfl

@[simp] theorem done_bind (value : α) (f : α → Prog sig β) : (Prog.done value >>= f) = f value :=
  rfl

@[simp] theorem call_bind (c : sig.Call) (next : sig.Answer c → Prog sig α)
    (f : α → Prog sig β) : (Prog.call c next >>= f) = .call c fun answer => next answer >>= f :=
  rfl

theorem bind_done (program : Prog sig α) : program >>= Prog.done = program := by
  induction program with
  | done value => rfl
  | call c next ih => simp only [call_bind, ih]

theorem bind_bind (program : Prog sig α) (f : α → Prog sig β) (g : β → Prog sig γ) :
    program >>= f >>= g = program >>= fun value => f value >>= g := by
  induction program with
  | done value => rfl
  | call c next ih => simp only [call_bind, ih]

instance : LawfulMonad (Prog sig) :=
  LawfulMonad.mk' (Prog sig) bind_done (fun _ _ => rfl) bind_bind

/-- The run against a handler that answers every call in one way. -/
def run (handler : (c : sig.Call) → σ → sig.Answer c × σ) : Prog sig α → σ → α × σ
  | .done value, s => (value, s)
  | .call c next, s => (next (handler c s).1).run handler (handler c s).2

@[simp] theorem run_done (handler : (c : sig.Call) → σ → sig.Answer c × σ) (value : α) (s : σ) :
    (Prog.done value).run handler s = (value, s) := rfl

@[simp] theorem run_ask (handler : (c : sig.Call) → σ → sig.Answer c × σ) (c : sig.Call) (s : σ) :
    (ask c).run handler s = handler c s := rfl

@[simp] theorem run_bind (handler : (c : sig.Call) → σ → sig.Answer c × σ)
    (program : Prog sig α) (f : α → Prog sig β) (s : σ) :
    (program >>= f).run handler s =
      (f (program.run handler s).1).run handler (program.run handler s).2 := by
  induction program generalizing s with
  | done value => rfl
  | call c next ih => exact ih _ _

end Prog

/-- What an environment may do: from which state it answers a call with what,
and in which state it ends. -/
abbrev Env (sig : Signature) (σ : Type) : Type :=
  (c : sig.Call) → σ → sig.Answer c → σ → Prop

variable {sig : Signature} {α β σ : Type}

/-- `Exec env program s value s'`: some behaviour of `env` takes the program
from `s` to the result `value` in `s'`. -/
inductive Exec (env : Env sig σ) : Prog sig α → σ → α → σ → Prop
  | done {value : α} {s : σ} : Exec env (.done value) s value s
  | call {c : sig.Call} {next : sig.Answer c → Prog sig α} {s s' s'' : σ}
      {answer : sig.Answer c} {value : α} :
      env c s answer s' → Exec env (next answer) s' value s'' → Exec env (.call c next) s value s''

/-- The weakest precondition: under every behaviour of `env`, the program makes
only allowed calls and ends in `post`. -/
def wp (env : Env sig σ) (allowed : sig.Call → Prop) :
    Prog sig α → (α → σ → Prop) → σ → Prop
  | .done value, post, s => post value s
  | .call c next, post, s =>
      allowed c ∧ ∀ answer s', env c s answer s' → wp env allowed (next answer) post s'

section Rules

variable {env env' : Env sig σ} {allowed : sig.Call → Prop} {post post' : α → σ → Prop} {s : σ}

theorem exec_done_iff {value result : α} {s' : σ} :
    Exec env (.done value) s result s' ↔ result = value ∧ s' = s := by
  constructor
  · rintro ⟨⟩
    exact ⟨rfl, rfl⟩
  · rintro ⟨rfl, rfl⟩
    exact .done

@[simp] theorem wp_done {value : α} : wp env allowed (.done value) post s ↔ post value s :=
  Iff.rfl

theorem wp_call {c : sig.Call} {next : sig.Answer c → Prog sig α} :
    wp env allowed (.call c next) post s ↔
      allowed c ∧ ∀ answer s', env c s answer s' → wp env allowed (next answer) post s' :=
  Iff.rfl

@[simp] theorem wp_ask {c : sig.Call} {post : sig.Answer c → σ → Prop} :
    wp env allowed (Prog.ask c) post s ↔
      allowed c ∧ ∀ answer s', env c s answer s' → post answer s' :=
  Iff.rfl

@[simp] theorem wp_bind {program : Prog sig α} {f : α → Prog sig β} {post : β → σ → Prop} :
    wp env allowed (program >>= f) post s ↔
      wp env allowed program (fun value s' => wp env allowed (f value) post s') s := by
  induction program generalizing s with
  | done value => rfl
  | call c next ih => simp only [Prog.call_bind, wp_call, ih]

/-- The consequence rule. -/
theorem wp_mono {program : Prog sig α} (h : wp env allowed program post s)
    (himp : ∀ value s', post value s' → post' value s') : wp env allowed program post' s := by
  induction program generalizing s with
  | done value => exact himp _ _ h
  | call c next ih => exact ⟨h.1, fun answer s' hcall => ih answer (h.2 answer s' hcall)⟩

/-- Every behaviour ends in a postcondition whose precondition it started in. -/
theorem Exec.of_wp {program : Prog sig α} {value : α} {s' : σ}
    (hexec : Exec env program s value s') (h : wp env allowed program post s) : post value s' := by
  induction hexec with
  | done => exact h
  | call hcall _ ih => exact ih (h.2 _ _ hcall)

/-- A program ends where one of its behaviours does. -/
theorem wp_exec (program : Prog sig α) (s : σ) :
    wp env (fun _ => True) program (fun value s' => Exec env program s value s') s := by
  induction program generalizing s with
  | done value => exact .done
  | call c next ih =>
      refine ⟨trivial, fun answer s' hcall => ?_⟩
      exact wp_mono (ih answer s') fun value s'' hrest => .call hcall hrest

/-- What every allowed call does to the state, the whole program does. -/
theorem Exec.relate {R : σ → σ → Prop} (hrefl : ∀ s, R s s)
    (htrans : ∀ s s' s'', R s s' → R s' s'' → R s s'')
    (hcalls : ∀ c s answer s', allowed c → env c s answer s' → R s s')
    {program : Prog sig α} {value : α} {s' : σ} (hexec : Exec env program s value s')
    (h : wp env allowed program post s) : R s s' := by
  induction hexec with
  | done => exact hrefl _
  | call hcall _ ih => exact htrans _ _ _ (hcalls _ _ _ _ h.1 hcall) (ih (h.2 _ _ hcall))

/-- A larger environment has the stronger precondition. -/
theorem wp_mono_env {program : Prog sig α} (h : wp env allowed program post s)
    (henv : ∀ c s answer s', env' c s answer s' → env c s answer s') :
    wp env' allowed program post s := by
  induction program generalizing s with
  | done value => exact h
  | call c next ih =>
      exact ⟨h.1, fun answer s' hcall => ih answer (h.2 answer s' (henv c s answer s' hcall))⟩

/-- A precondition survives an interference that the environment absorbs: one
that may as well have happened inside the next call. -/
theorem wp_of_absorbed {interfere : σ → σ → Prop}
    (habsorb : ∀ c s s₁ answer s', interfere s s₁ → env c s₁ answer s' → env c s answer s')
    (hstable : ∀ value s s₁, interfere s s₁ → post value s → post value s₁)
    {program : Prog sig α} {s₁ : σ} (h : wp env allowed program post s)
    (hinterfere : interfere s s₁) : wp env allowed program post s₁ := by
  cases program with
  | done value => exact hstable value s s₁ hinterfere h
  | call c next =>
      exact ⟨h.1, fun answer s' hcall => h.2 answer s' (habsorb c s s₁ answer s' hinterfere hcall)⟩

/-- A behaviour, seen through a function of the state that the environment respects. -/
theorem Exec.map {τ : Type} {env : Env sig σ} {view : Env sig τ} {f : σ → τ}
    (hview : ∀ c s answer s', env c s answer s' → view c (f s) answer (f s'))
    {program : Prog sig α} {s s' : σ} {value : α} (hexec : Exec env program s value s') :
    Exec view program (f s) value (f s') := by
  induction hexec with
  | done => exact .done
  | call hcall _ ih => exact .call (hview _ _ _ _ hcall) ih

/-- A handler that stays inside the environment gives one of its behaviours. -/
theorem exec_run {handler : (c : sig.Call) → σ → sig.Answer c × σ}
    (hhandler : ∀ c s, env c s (handler c s).1 (handler c s).2) (program : Prog sig α) (s : σ) :
    Exec env program s (program.run handler s).1 (program.run handler s).2 := by
  induction program generalizing s with
  | done value => exact .done
  | call c next ih => exact .call (hhandler c s) (ih _ _)

end Rules

end Effects
