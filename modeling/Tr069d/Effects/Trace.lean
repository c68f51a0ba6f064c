import Tr069d.Effects.Prog

/-!
# Histories

A history is the list of what happened, the newest entry first.  `Always P` says
that every entry meets `P` together with what came before it.

`noted note` is the environment that answers anything and takes notes of the
calls, and `annotated env note` takes the same notes of what `env` does.  In
`notedAmid possible noise note` others write to the notes as well.
-/

namespace Effects

variable {ε : Type} {P Q : ε → List ε → Prop}

/-- Every entry of the history meets `P` with the entries before it. -/
def Always (P : ε → List ε → Prop) : List ε → Prop
  | [] => True
  | entry :: earlier => P entry earlier ∧ Always P earlier

@[simp] theorem always_nil : Always P [] ↔ True := Iff.rfl

@[simp] theorem always_cons {entry : ε} {earlier : List ε} :
    Always P (entry :: earlier) ↔ P entry earlier ∧ Always P earlier := Iff.rfl

/-- What holds of a history held of every earlier one. -/
theorem Always.of_append {newer earlier : List ε} (h : Always P (newer ++ earlier)) :
    Always P earlier := by
  induction newer with
  | nil => exact h
  | cons entry newer ih => exact ih h.2

/-- Entries that meet `P` whatever came before them can be left out. -/
theorem always_append_iff {newer earlier : List ε}
    (hnewer : ∀ entry ∈ newer, ∀ before, P entry before) :
    Always P (newer ++ earlier) ↔ Always P earlier := by
  induction newer with
  | nil => rfl
  | cons entry newer ih =>
      rw [List.cons_append, always_cons, ih fun e he => hnewer e (List.mem_cons_of_mem _ he)]
      exact and_iff_right (hnewer entry List.mem_cons_self _)

instance [inst : ∀ entry earlier, Decidable (P entry earlier)] :
    (history : List ε) → Decidable (Always P history)
  | [] => isTrue trivial
  | entry :: earlier =>
      match inst entry earlier, instDecidableAlways earlier with
      | isTrue hentry, isTrue hearlier => isTrue ⟨hentry, hearlier⟩
      | isFalse hentry, _ => isFalse fun h => hentry h.1
      | _, isFalse hearlier => isFalse fun h => hearlier h.2

/-! ## Notes -/

section Notes

variable {sig : Signature} {σ α : Type} {note : (c : sig.Call) → sig.Answer c → List ε}

/-- Any answers, with notes of them. -/
def noted (note : (c : sig.Call) → sig.Answer c → List ε) : Env sig (List ε) :=
  fun c notes answer notes' => notes' = note c answer ++ notes

/-- What `env` does, with notes of it. -/
def annotated (env : Env sig σ) (note : (c : sig.Call) → sig.Answer c → List ε) :
    Env sig (σ × List ε) :=
  fun c s answer s' => env c s.1 answer s'.1 ∧ noted note c s.2 answer s'.2

theorem wp_noted_ask_iff {c : sig.Call} {post : sig.Answer c → List ε → Prop} {notes : List ε} :
    wp (noted note) (fun _ => True) (Prog.ask c) post notes ↔
      ∀ answer, post answer (note c answer ++ notes) := by
  constructor
  · intro h answer
    exact h.2 answer _ rfl
  · intro h
    refine ⟨trivial, ?_⟩
    rintro answer _ rfl
    exact h answer

/-- Notes are only added. -/
theorem wp_noted_append (program : Prog sig α) (notes : List ε) :
    wp (noted note) (fun _ => True) program (fun _ notes' => ∃ newer, notes' = newer ++ notes)
      notes := by
  induction program generalizing notes with
  | done value => exact ⟨[], rfl⟩
  | call c next ih =>
      refine ⟨trivial, ?_⟩
      rintro answer _ rfl
      refine wp_mono (ih answer (note c answer ++ notes)) ?_
      rintro _ _ ⟨newer, rfl⟩
      exact ⟨newer ++ note c answer, by rw [List.append_assoc]⟩

variable {env : Env sig σ} {program : Prog sig α} {value : α}

/-- Taking notes changes nothing. -/
theorem Exec.annotate {s s' : σ} (hexec : Exec env program s value s')
    (note : (c : sig.Call) → sig.Answer c → List ε) (notes : List ε) :
    ∃ notes', Exec (annotated env note) program (s, notes) value (s', notes') := by
  induction hexec generalizing notes with
  | done => exact ⟨notes, .done⟩
  | @call c _ s s₁ _ answer _ hcall _ ih =>
      obtain ⟨notes', hrest⟩ := ih (note c answer ++ notes)
      have hnoted : annotated env note c (s, notes) answer (s₁, note c answer ++ notes) :=
        ⟨hcall, rfl⟩
      exact ⟨notes', .call hnoted hrest⟩

/-- A handler that takes notes. -/
def annotatedHandler (handler : (c : sig.Call) → σ → sig.Answer c × σ)
    (note : (c : sig.Call) → sig.Answer c → List ε) (c : sig.Call) (s : σ × List ε) :
    sig.Answer c × (σ × List ε) :=
  let result := handler c s.1
  (result.1, result.2, note c result.1 ++ s.2)

theorem annotatedHandler_mem {handler : (c : sig.Call) → σ → sig.Answer c × σ}
    (h : ∀ c s, env c s (handler c s).1 (handler c s).2) (c : sig.Call) (s : σ × List ε) :
    annotated env note c s (annotatedHandler handler note c s).1
      (annotatedHandler handler note c s).2 :=
  ⟨h c s.1, rfl⟩

theorem Exec.of_annotated {s s' : σ × List ε}
    (hexec : Exec (annotated env note) program s value s') :
    Exec env program s.1 value s'.1 ∧ Exec (noted note) program s.2 value s'.2 :=
  ⟨hexec.map fun _ _ _ _ hcall => hcall.1, hexec.map fun _ _ _ _ hcall => hcall.2⟩

end Notes

/-! ## Notes amid noise -/

section Noise

variable {sig : Signature} (possible : (c : sig.Call) → sig.Answer c → Prop)
  (noise : ε → Prop) (note : (c : sig.Call) → sig.Answer c → List ε)

/-- Any possible answers, with notes of them, while others add noise between
the calls. -/
def notedAmid : Env sig (List ε) := fun c notes answer notes' =>
  possible c answer ∧
    ∃ amid, (∀ entry ∈ amid, noise entry) ∧ notes' = note c answer ++ (amid ++ notes)

variable {possible noise note}

theorem wp_notedAmid_ask_iff {c : sig.Call} {post : sig.Answer c → List ε → Prop}
    {notes : List ε} :
    wp (notedAmid possible noise note) (fun _ => True) (Prog.ask c) post notes ↔
      ∀ answer, possible c answer → ∀ amid, (∀ entry ∈ amid, noise entry) →
        post answer (note c answer ++ (amid ++ notes)) := by
  constructor
  · intro h answer hpossible amid hamid
    exact h.2 answer _ ⟨hpossible, amid, hamid, rfl⟩
  · intro h
    refine ⟨trivial, ?_⟩
    rintro answer _ ⟨hpossible, amid, hamid, rfl⟩
    exact h answer hpossible amid hamid

end Noise

end Effects
