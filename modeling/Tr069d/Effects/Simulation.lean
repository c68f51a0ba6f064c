import Mathlib.Data.List.Forall2

/-!
# Runs of labelled steps

What a system does in a row, and how a second system follows it: if every step of
the first one is matched by a step of the second one, then so is every run.

The labels of the two systems need not be equal, as long as they are related step by
step.
-/

namespace Effects

variable {σ τ ι κ : Type}

/-- Steps in a row, with their labels. -/
inductive Steps (step : σ → ι → σ → Prop) : σ → List ι → σ → Prop
  | nil {s : σ} : Steps step s [] s
  | cons {s s' s'' : σ} {label : ι} {labels : List ι} (hstep : step s label s')
      (hrest : Steps step s' labels s'') : Steps step s (label :: labels) s''

namespace Steps

variable {step : σ → ι → σ → Prop} {s s' s'' : σ} {labels labels' : List ι}

theorem append (h : Steps step s labels s') (h' : Steps step s' labels' s'') :
    Steps step s (labels ++ labels') s'' := by
  induction h with
  | nil => exact h'
  | cons hstep _ ih => exact .cons hstep (ih h')

/-- What every step keeps, a run keeps. -/
theorem invariant {I : σ → Prop} (h : Steps step s labels s') (hs : I s)
    (hkeep : ∀ s label s', I s → step s label s' → I s') : I s' := by
  induction h with
  | nil => exact hs
  | cons hstep _ ih => exact ih (hkeep _ _ _ hs hstep)

/-- A simulation lifts to runs.  The labels mean what they mean, step by step. -/
theorem simulate {abstract : τ → κ → τ → Prop} {R : σ → τ → Prop} {meaning : ι → κ → Prop}
    (hsim : ∀ s t label s' target, R s t → step s label s' → meaning label target →
      ∃ t', abstract t target t' ∧ R s' t')
    (h : Steps step s labels s') {t : τ} (hR : R s t) {targets : List κ}
    (hmeaning : List.Forall₂ meaning labels targets) :
    ∃ t', Steps abstract t targets t' ∧ R s' t' := by
  induction h generalizing t targets with
  | nil =>
      cases hmeaning
      exact ⟨t, .nil, hR⟩
  | cons hstep _ ih =>
      cases hmeaning with
      | cons htarget hrest =>
          obtain ⟨t', habstract, hR'⟩ := hsim _ _ _ _ _ hR hstep htarget
          obtain ⟨t'', hsteps, hR''⟩ := ih hR' hrest
          exact ⟨t'', .cons habstract hsteps, hR''⟩

end Steps

end Effects
