import Tr069d.Effects.Prog

/-!
# Two runs of a program

`Coupled before after post m n` compares a run of `m` with a run of `n`: from
states related by `before` they return results related by `post` and end in
states related by `after`.  A program is `Blind` to a relation if two runs from
related states return the same.

The rules are those of a Hoare logic, with a pair of programs for one.
-/

namespace Effects

variable {sig : Signature} {σ τ α β γ δ : Type}

def Coupled (before after : σ → σ → Prop) (post : α → β → Prop) (m : StateM σ α)
    (n : StateM σ β) : Prop :=
  ∀ s t, before s t → post (m s).1 (n t).1 ∧ after (m s).2 (n t).2

/-- Related states give the same result, and lead to related states. -/
def Blind (related : σ → σ → Prop) (m : StateM σ α) : Prop :=
  Coupled related related Eq m m

variable {before middle after related : σ → σ → Prop} {post : α → β → Prop}

namespace Coupled

theorem pure {value : α} {value' : β} (h : post value value') :
    Coupled related related post (pure value : StateM σ α) (pure value' : StateM σ β) :=
  fun _ _ hrelated => ⟨h, hrelated⟩

theorem bind {m : StateM σ α} {n : StateM σ β} {f : α → StateM σ γ} {g : β → StateM σ δ}
    {post' : γ → δ → Prop} (h : Coupled before middle post m n)
    (hnext : ∀ value value', post value value' →
      Coupled middle after post' (f value) (g value')) :
    Coupled before after post' (m >>= f) (n >>= g) := by
  intro s t hbefore
  obtain ⟨hpost, hmiddle⟩ := h s t hbefore
  exact hnext _ _ hpost _ _ hmiddle

theorem mono {before' after' : σ → σ → Prop} {post' : α → β → Prop} {m : StateM σ α}
    {n : StateM σ β} (h : Coupled before after post m n)
    (hbefore : ∀ s t, before' s t → before s t) (hafter : ∀ s t, after s t → after' s t)
    (hpost : ∀ value value', post value value' → post' value value') :
    Coupled before' after' post' m n := by
  intro s t hrelated
  obtain ⟨hvalue, hstate⟩ := h s t (hbefore s t hrelated)
  exact ⟨hpost _ _ hvalue, hafter _ _ hstate⟩

/-- Loops over two lists whose elements correspond. -/
theorem forM {P : α → β → Prop} {f : α → StateM σ PUnit} {g : β → StateM σ PUnit}
    {xs : List α} {ys : List β} (hlists : List.Forall₂ P xs ys)
    (hbody : ∀ x y, P x y → Coupled related related Eq (f x) (g y)) :
    Coupled related related Eq (xs.forM f) (ys.forM g) := by
  induction hlists with
  | nil => exact .pure rfl
  | cons hhead _ ih => exact .bind (hbody _ _ hhead) fun _ _ _ => ih

end Coupled

namespace Blind

theorem pure (value : α) : Blind related (pure value : StateM σ α) := Coupled.pure rfl

theorem bind {m : StateM σ α} {f : α → StateM σ β} (h : Blind related m)
    (hnext : ∀ value, Blind related (f value)) : Blind related (m >>= f) := by
  refine Coupled.bind h ?_
  rintro value _ rfl
  exact hnext value

theorem forM {f : α → StateM σ PUnit} (xs : List α) (hbody : ∀ x, Blind related (f x)) :
    Blind related (xs.forM f) := by
  induction xs with
  | nil => exact .pure PUnit.unit
  | cons x xs ih => exact .bind (hbody x) fun _ => ih

theorem mapM {f : α → StateM σ β} (xs : List α) (hbody : ∀ x, Blind related (f x)) :
    Blind related (xs.mapM f) := by
  induction xs with
  | nil => exact .pure []
  | cons x xs ih =>
      rw [List.mapM_cons]
      exact .bind (hbody x) fun _ => .bind ih fun _ => .pure _

/-- A program on a part of the state is blind to whatever the part is. -/
theorem map {related' : τ → τ → Prop} {m : StateM σ α} {get : τ → σ} {put : τ → σ → τ}
    (h : Blind related m) (hget : ∀ s t, related' s t → related (get s) (get t))
    (hput : ∀ s t s' t', related' s t → related s' t' → related' (put s s') (put t t')) :
    Blind related' (fun s => ((m (get s)).1, put s (m (get s)).2) : StateM τ α) := by
  intro s t hrelated
  obtain ⟨hvalue, hstate⟩ := h _ _ (hget s t hrelated)
  exact ⟨hvalue, hput _ _ _ _ hrelated hstate⟩

end Blind

/-! ## One run -/

/-- What holds before the program holds after it. -/
def Keeps (I : σ → Prop) (m : StateM σ α) : Prop :=
  ∀ s, I s → I (m s).2

namespace Keeps

variable {I : σ → Prop}

theorem pure (value : α) : Keeps I (pure value : StateM σ α) := fun _ hs => hs

theorem bind {m : StateM σ α} {f : α → StateM σ β} (h : Keeps I m)
    (hnext : ∀ value, Keeps I (f value)) : Keeps I (m >>= f) :=
  fun s hs => hnext _ _ (h s hs)

theorem forM {f : α → StateM σ PUnit} (xs : List α) (hbody : ∀ x, Keeps I (f x)) :
    Keeps I (xs.forM f) := by
  induction xs with
  | nil => exact .pure PUnit.unit
  | cons x xs ih => exact .bind (hbody x) fun _ => ih

end Keeps

section Programs

variable {handler : (c : sig.Call) → σ → sig.Answer c × σ}

theorem coupled_run_done {value : α} {value' : β} (h : post value value') :
    Coupled related related post ((Prog.done value : Prog sig α).run handler)
      ((Prog.done value' : Prog sig β).run handler) :=
  fun _ _ hrelated => ⟨h, hrelated⟩

theorem coupled_run_done_of_imp {value : α} {value' : β} (h : post value value')
    (himp : ∀ s t, before s t → after s t) :
    Coupled before after post ((Prog.done value : Prog sig α).run handler)
      ((Prog.done value' : Prog sig β).run handler) :=
  fun s t hbefore => ⟨h, himp s t hbefore⟩

theorem coupled_run_bind {p : Prog sig α} {q : Prog sig β} {f : α → Prog sig γ}
    {g : β → Prog sig δ} {post' : γ → δ → Prop}
    (h : Coupled before middle post (p.run handler) (q.run handler))
    (hnext : ∀ value value', post value value' →
      Coupled middle after post' ((f value).run handler) ((g value').run handler)) :
    Coupled before after post' ((p >>= f).run handler) ((q >>= g).run handler) := by
  intro s t hbefore
  simp only [Prog.run_bind]
  obtain ⟨hpost, hmiddle⟩ := h s t hbefore
  exact hnext _ _ hpost _ _ hmiddle

theorem blind_run_done (value : α) : Blind related ((Prog.done value : Prog sig α).run handler) :=
  coupled_run_done rfl

theorem blind_run_bind {p : Prog sig α} {f : α → Prog sig β}
    (h : Blind related (p.run handler)) (hnext : ∀ value, Blind related ((f value).run handler)) :
    Blind related ((p >>= f).run handler) := by
  refine coupled_run_bind h ?_
  rintro value _ rfl
  exact hnext value

end Programs

end Effects
