import Tr069d.Effects.Pool

/-!
# Programs that follow an automaton

`Obeys next final phase program` says that the calls of a program, whatever they
are answered, follow the partial automaton `next` from `phase`, and that the
program returns in `final`.  It is a session type: an order of the calls that is
proved once for a program, and then holds in every pool that runs it.

The automaton is partial, so that a program that obeys it never makes a call that is
out of order.
-/

namespace Effects

variable {sig : Signature} {α β φ : Type}

namespace Prog

/-- The calls follow the automaton, whatever their answers are. -/
def Obeys (next : φ → sig.Call → Option φ) (final : φ) : Prog sig α → φ → Prop
  | .done _, phase => phase = final
  | .call c rest, phase =>
      ∃ phase', next phase c = some phase' ∧ ∀ answer, (rest answer).Obeys next final phase'

variable {next : φ → sig.Call → Option φ} {middle final phase : φ}

theorem obeys_done (value : α) : (Prog.done value : Prog sig α).Obeys next final final := rfl

theorem obeys_ask {c : sig.Call} (hnext : next phase c = some final) :
    (ask c).Obeys next final phase :=
  ⟨final, hnext, fun _ => rfl⟩

theorem Obeys.bind {program : Prog sig α} {f : α → Prog sig β}
    (h : program.Obeys next middle phase) (hf : ∀ value, (f value).Obeys next final middle) :
    (program >>= f).Obeys next final phase := by
  induction program generalizing phase with
  | done value =>
      obtain rfl : phase = middle := h
      exact hf value
  | call c rest ih =>
      obtain ⟨phase', hnext, hrest⟩ := h
      exact ⟨phase', hnext, fun answer => ih answer (hrest answer)⟩

end Prog

end Effects
