import Tr069d.Effects.Trace

/-!
# Programs that make certain calls only

`program.Calls P` says that every call the program may make meets `P`, whatever
the answers are.  Where such calls keep an invariant, the program keeps it
(`wp_of_calls`): its calls are looked at once, and framed in every environment.

`Returns` is the same for the results: a value that the program may return, whatever
the answers are, meets a predicate.  Neither mentions a state.
-/

namespace Effects

variable {sig : Signature} {α β σ ε : Type} {P : sig.Call → Prop}

namespace Prog

/-- Every call that the program may make meets `P`. -/
def Calls (P : sig.Call → Prop) : Prog sig α → Prop
  | .done _ => True
  | .call c next => P c ∧ ∀ answer, (next answer).Calls P

theorem calls_pure (value : α) : (pure value : Prog sig α).Calls P := trivial

theorem calls_ask {c : sig.Call} (h : P c) : (ask c).Calls P :=
  ⟨h, fun _ => trivial⟩

theorem Calls.bind {program : Prog sig α} {f : α → Prog sig β} (h : program.Calls P)
    (hf : ∀ value, (f value).Calls P) : (program >>= f).Calls P := by
  induction program with
  | done value => exact hf value
  | call c next ih => exact ⟨h.1, fun answer => ih answer (h.2 answer)⟩

end Prog

/-- What every call keeps, the program keeps. -/
theorem wp_of_calls {env : Env sig σ} {I : σ → Prop} {program : Prog sig α}
    {post : α → σ → Prop} {s : σ} (h : program.Calls P)
    (hkeep : ∀ c s answer s', P c → I s → env c s answer s' → I s') (hI : I s)
    (hpost : ∀ value s', I s' → post value s') : wp env (fun _ => True) program post s := by
  induction program generalizing s with
  | done value => exact hpost value s hI
  | call c next ih =>
      refine ⟨trivial, fun answer s' hcall => ?_⟩
      exact ih answer (h.2 answer) (hkeep c s answer s' h.1 hI hcall)

/-- Calls that are not noted leave the notes as they are. -/
theorem wp_noted_of_calls {note : (c : sig.Call) → sig.Answer c → List ε}
    {program : Prog sig α} {post : α → List ε → Prop} {notes : List ε} (h : program.Calls P)
    (hquiet : ∀ c, P c → ∀ answer, note c answer = []) (hpost : ∀ value, post value notes) :
    wp (noted note) (fun _ => True) program post notes := by
  refine wp_of_calls (I := (· = notes)) h ?_ rfl fun value _ hnotes => hnotes ▸ hpost value
  rintro c _ answer _ hc rfl rfl
  rw [hquiet c hc answer, List.nil_append]

/-- Amid noise they only let noise be added. -/
theorem wp_notedAmid_of_calls {possible : (c : sig.Call) → sig.Answer c → Prop}
    {noise : ε → Prop} {note : (c : sig.Call) → sig.Answer c → List ε} {program : Prog sig α}
    {post : α → List ε → Prop} {notes : List ε} (h : program.Calls P)
    (hquiet : ∀ c, P c → ∀ answer, note c answer = [])
    (hpost : ∀ value amid, (∀ entry ∈ amid, noise entry) → post value (amid ++ notes)) :
    wp (notedAmid possible noise note) (fun _ => True) program post notes := by
  refine wp_of_calls
    (I := fun later => ∃ amid, (∀ entry ∈ amid, noise entry) ∧ later = amid ++ notes) h ?_
    ⟨[], List.forall_mem_nil _, rfl⟩ ?_
  · rintro c _ answer _ hc ⟨amid, hamid, rfl⟩ ⟨-, later, hlater, rfl⟩
    refine ⟨later ++ amid, List.forall_mem_append.mpr ⟨hlater, hamid⟩, ?_⟩
    rw [hquiet c hc answer, List.nil_append, List.append_assoc]
  · rintro value _ ⟨amid, hamid, rfl⟩
    exact hpost value amid hamid

/-! ## What is returned -/

namespace Prog

/-- Every value that the program may return meets `Q`, whatever the answers are. -/
def Returns (Q : α → Prop) : Prog sig α → Prop
  | .done value => Q value
  | .call _ next => ∀ answer, (next answer).Returns Q

variable {Q : α → Prop} {R : β → Prop} {program : Prog sig α}

theorem returns_pure {value : α} (h : Q value) : (pure value : Prog sig α).Returns Q := h

theorem returns_trivial (program : Prog sig α) : program.Returns fun _ => True := by
  induction program with
  | done value => trivial
  | call c next ih => exact ih

theorem Returns.bind {f : α → Prog sig β} (h : program.Returns Q)
    (hf : ∀ value, Q value → (f value).Returns R) : (program >>= f).Returns R := by
  induction program with
  | done value => exact hf value h
  | call c next ih => exact fun answer => ih answer (h answer)

theorem Returns.mono {Q' : α → Prop} (h : program.Returns Q) (himp : ∀ value, Q value → Q' value) :
    program.Returns Q' := by
  induction program with
  | done value => exact himp value h
  | call c next ih => exact fun answer => ih answer (h answer)

/-- A step whose answer does not matter. -/
theorem returns_after {f : α → Prog sig β} (hf : ∀ value, (f value).Returns R) :
    (program >>= f).Returns R :=
  (returns_trivial program).bind fun value _ => hf value

end Prog

theorem Exec.returns {env : Env sig σ} {Q : α → Prop} {program : Prog sig α} {s s' : σ}
    {value : α} (hexec : Exec env program s value s') (h : program.Returns Q) : Q value := by
  induction hexec with
  | done => exact h
  | call _ _ ih => exact ih (h _)

end Effects
