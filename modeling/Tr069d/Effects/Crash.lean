import Tr069d.Effects.Calls

/-!
# Programs that are interrupted

A process may end at any place: between two calls, or in the middle of one, which
then leaves behind what `torn` says.  `Interrupted` is a run of a program up to
such a place.

`cwp` is the precondition that also asks for a crash condition wherever the run
may end.  Processes that follow each other, each interrupted somewhere, keep a
condition under which every one of them is started and interrupted
(`Lives.invariant`).
-/

namespace Effects

variable {sig : Signature} {α β σ ι : Type}

/-- What a call that is interrupted may leave behind. -/
abbrev Torn (sig : Signature) (σ : Type) : Type :=
  sig.Call → σ → σ → Prop

/-- A run of the program that ends where it ends, or before. -/
inductive Interrupted (env : Env sig σ) (torn : Torn sig σ) : Prog sig α → σ → σ → Prop
  | here {program : Prog sig α} {s : σ} : Interrupted env torn program s s
  | amid {c : sig.Call} {next : sig.Answer c → Prog sig α} {s s' : σ} (htorn : torn c s s') :
      Interrupted env torn (.call c next) s s'
  | later {c : sig.Call} {next : sig.Answer c → Prog sig α} {s s' s'' : σ}
      {answer : sig.Answer c} (hcall : env c s answer s')
      (hrest : Interrupted env torn (next answer) s' s'') :
      Interrupted env torn (.call c next) s s''

/-- Under every behaviour of `env` the program ends in `post`, and wherever it is
interrupted, in `crash`. -/
def cwp (env : Env sig σ) (torn : Torn sig σ) (crash : σ → Prop) :
    Prog sig α → (α → σ → Prop) → σ → Prop
  | .done value, post, s => crash s ∧ post value s
  | .call c next, post, s =>
      crash s ∧ (∀ s', torn c s s' → crash s') ∧
        ∀ answer s', env c s answer s' → cwp env torn crash (next answer) post s'

section Rules

variable {env : Env sig σ} {torn : Torn sig σ} {crash : σ → Prop} {post post' : α → σ → Prop}
  {program : Prog sig α} {s s' : σ}

theorem cwp_done {value : α} :
    cwp env torn crash (.done value) post s ↔ crash s ∧ post value s := Iff.rfl

/-- The program may be interrupted before its first call. -/
theorem crash_of_cwp (h : cwp env torn crash program post s) : crash s := by
  cases program with
  | done value => exact h.1
  | call c next => exact h.1

theorem cwp_bind {f : α → Prog sig β} {post : β → σ → Prop} :
    cwp env torn crash (program >>= f) post s ↔
      cwp env torn crash program (fun value s' => cwp env torn crash (f value) post s') s := by
  induction program generalizing s with
  | done value =>
      rw [Prog.done_bind, cwp_done]
      exact ⟨fun h => ⟨crash_of_cwp h, h⟩, fun h => h.2⟩
  | call c next ih => simp only [Prog.call_bind, cwp, ih]

theorem cwp_mono (h : cwp env torn crash program post s)
    (himp : ∀ value s', post value s' → post' value s') :
    cwp env torn crash program post' s := by
  induction program generalizing s with
  | done value => exact ⟨h.1, himp _ _ h.2⟩
  | call c next ih =>
      obtain ⟨hcrash, htorn, hcalls⟩ := h
      exact ⟨hcrash, htorn, fun answer s' hcall => ih answer (hcalls answer s' hcall)⟩

/-- Wherever the program is interrupted, the crash condition holds. -/
theorem Interrupted.of_cwp (hrun : Interrupted env torn program s s')
    (h : cwp env torn crash program post s) : crash s' := by
  induction hrun with
  | here => exact crash_of_cwp h
  | amid htorn => exact h.2.1 _ htorn
  | later hcall _ ih => exact ih (h.2.2 _ _ hcall)

/-- What every call keeps, also when it is interrupted, the program keeps. -/
theorem cwp_of_calls {P : sig.Call → Prop} {I : σ → Prop} (h : program.Calls P)
    (hkeep : ∀ c s answer s', P c → I s → env c s answer s' → I s')
    (htorn : ∀ c s s', P c → I s → torn c s s' → crash s')
    (hcrash : ∀ s, I s → crash s) (hI : I s) (hpost : ∀ value s', I s' → post value s') :
    cwp env torn crash program post s := by
  induction program generalizing s with
  | done value => exact ⟨hcrash s hI, hpost value s hI⟩
  | call c next ih =>
      refine ⟨hcrash s hI, fun s' => htorn c s s' h.1 hI, fun answer s' hcall => ?_⟩
      exact ih answer (h.2 answer) (hkeep c s answer s' h.1 hI hcall)

/-- The state after up to `n` calls, while a handler answers them. -/
def Prog.after (handler : (c : sig.Call) → σ → sig.Answer c × σ) : Nat → Prog sig α → σ → σ
  | 0, _, s => s
  | _ + 1, .done _, s => s
  | n + 1, .call c next, s => (next (handler c s).1).after handler n (handler c s).2

theorem interrupted_after {handler : (c : sig.Call) → σ → sig.Answer c × σ}
    (hhandler : ∀ c s, env c s (handler c s).1 (handler c s).2) (n : Nat) (program : Prog sig α)
    (s : σ) : Interrupted env torn program s (program.after handler n s) := by
  induction n generalizing program s with
  | zero => exact .here
  | succ n ih =>
      cases program with
      | done value => exact .here
      | call c next => exact .later (hhandler c s) (ih _ _)

end Rules

/-! ## One life after the other -/

/-- Programs that run one after the other, each interrupted anywhere; `restart` leads
from where one of them ended to where the next one starts. -/
inductive Lives (env : Env sig σ) (torn : Torn sig σ) (programs : ι → Prog sig α)
    (restart : σ → σ → Prop) (initial : σ) : σ → Prop
  | new : Lives env torn programs restart initial initial
  | life {i : ι} {s s' s'' : σ} (hlives : Lives env torn programs restart initial s)
      (hrestart : restart s s') (hrun : Interrupted env torn (programs i) s' s'') :
      Lives env torn programs restart initial s''

/-- What every life keeps, all of them keep. -/
theorem Lives.invariant {env : Env sig σ} {torn : Torn sig σ} {programs : ι → Prog sig α}
    {restart : σ → σ → Prop} {I : σ → Prop} {initial s : σ}
    (hlives : Lives env torn programs restart initial s) (hinitial : I initial)
    (hlife : ∀ i s s', I s → restart s s' →
      cwp env torn I (programs i) (fun _ _ => True) s') : I s := by
  induction hlives with
  | new => exact hinitial
  | @life i s s' s'' _ hrestart hrun ih => exact hrun.of_cwp (hlife i s s' ih hrestart)

end Effects
