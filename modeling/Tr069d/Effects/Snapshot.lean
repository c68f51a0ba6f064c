import Mathlib.Data.List.Nodup
import Tr069d.Effects.Calls

/-!
# Reading a store while it changes

A program reads a store call by call, while others change it key by key.  What it
returns then may fit no state that the store was ever in.  Amid a single change it
does, if the program reads no key twice: it returns what it would have returned
before the change, or after it (`Reader.result_of_changedBy_one`).

* `Reader` says which calls only read, and of which key.
* `Once` is the condition on a program, and is closed under sequencing.
* `amid` are the surroundings with the changes counted, so that a bound on the count is
  a bound on what others do.
* `Once.exists_result` covers any number of changes: there is one store, made up of what
  was read, that the program agrees with.
-/

namespace Effects

variable {sig : Signature} {κ ν α : Type}

/-- How calls read a store: which of them only read, the key that each of these
looks at, and what it answers. -/
structure Reader (sig : Signature) (κ ν : Type) where
  reads : sig.Call → Prop
  key : sig.Call → Option κ
  answer : (c : sig.Call) → (κ → ν) → sig.Answer c
  answer_congr : ∀ {c view view'}, reads c → (∀ k, key c = some k → view k = view' k) →
    answer c view = answer c view'

/-- So many changes of one key each lead from one view of the store to the other. -/
inductive ChangedBy : Nat → (κ → ν) → (κ → ν) → Prop
  | none {view} : ChangedBy 0 view view
  | change {n view view' view''} (key : κ) (h : ChangedBy n view view')
      (hsame : ∀ k, k ≠ key → view'' k = view' k) : ChangedBy (n + 1) view view''

section ChangedBy

variable {n m : Nat} {view view' view'' : κ → ν}

theorem ChangedBy.trans (h : ChangedBy n view view') (h' : ChangedBy m view' view'') :
    ChangedBy (n + m) view view'' := by
  induction h' with
  | none => exact h
  | change key _ hsame ih => exact .change key (ih h) hsame

theorem ChangedBy.eq_of_zero (h : ChangedBy 0 view view') : view' = view := by
  cases h with
  | none => rfl

/-- A single change leaves all keys but one as they were. -/
theorem ChangedBy.exists_key (h : ChangedBy 1 view view') :
    ∃ key, ∀ k, k ≠ key → view' k = view k := by
  cases h with
  | change key h hsame => exact ⟨key, fun k hk => (hsame k hk).trans (congrFun h.eq_of_zero k)⟩

end ChangedBy

namespace Reader

variable (reader : Reader sig κ ν)

/-- What the program returns if the store stays as it is. -/
def result : Prog sig α → (κ → ν) → α
  | .done value, _ => value
  | .call c next, view => result (next (reader.answer c view)) view

/-- The program only reads, and neither a key twice nor one of `seen`. -/
def Once (program : Prog sig α) (seen : List κ) : Prop :=
  wp (noted fun c _ => (reader.key c).toList) reader.reads program (fun _ keys => keys.Nodup) seen

/-- Others change the store before each call.  The changes are counted. -/
def amid : Env sig ((κ → ν) × Nat) := fun c s answer s' => reader.reads c →
  ∃ n, ChangedBy n s.1 s'.1 ∧ s'.2 = s.2 + n ∧ answer = reader.answer c s'.1

/-- Others change the store before each call, except for the keys of `kept`. -/
def amidKeeping (kept : κ → Prop) : Env sig (κ → ν) := fun c view answer view' =>
  reader.reads c → (∀ k, kept k → view' k = view k) ∧ answer = reader.answer c view'

variable {reader} {c : sig.Call} {next : sig.Answer c → Prog sig α} {program : Prog sig α}
  {seen : List κ} {view view' : κ → ν} {n n' : Nat} {value : α}

theorem Once.reads (h : reader.Once (.call c next) seen) : reader.reads c := h.1

theorem Once.rest (h : reader.Once (.call c next) seen) (answer : sig.Answer c) :
    reader.Once (next answer) ((reader.key c).toList ++ seen) :=
  h.2 answer _ rfl

theorem Once.nodup (h : reader.Once program seen) (view : κ → ν) : seen.Nodup := by
  induction program generalizing seen with
  | done value => exact h
  | call c next ih => exact (ih _ (h.rest (reader.answer c view))).of_append_right

theorem Once.calls (h : reader.Once program seen) : program.Calls reader.reads := by
  induction program generalizing seen with
  | done value => trivial
  | call c next ih => exact ⟨h.reads, fun answer => ih answer (h.rest answer)⟩

/-- The keys that were seen do not matter any more. -/
theorem Once.result_congr (h : reader.Once program seen)
    (hsame : ∀ k, k ∉ seen → view k = view' k) :
    reader.result program view = reader.result program view' := by
  induction program generalizing seen with
  | done value => rfl
  | call c next ih =>
      have hanswer : reader.answer c view = reader.answer c view' := by
        refine reader.answer_congr h.reads fun k hk => hsame k ?_
        have hnodup := (h.rest (reader.answer c view)).nodup view
        rw [hk] at hnodup
        exact (List.nodup_cons.mp hnodup).1
      rw [result, result, hanswer]
      exact ih _ (h.rest _) fun k hk => hsame k fun hmem => hk (List.mem_append_right _ hmem)

/-- What happened to the store in the meantime. -/
theorem Once.changedBy (h : reader.Once program seen)
    (hexec : Exec reader.amid program (view, n) value (view', n')) :
    ∃ m, n' = n + m ∧ ChangedBy m view view' := by
  generalize hs : (view, n) = s at hexec
  generalize hs' : (view', n') = s' at hexec
  induction hexec generalizing view n seen with
  | done =>
      obtain ⟨rfl, rfl⟩ := Prod.mk.inj (hs.trans hs'.symm)
      exact ⟨0, rfl, .none⟩
  | @call c next s s₁ s' answer value hcall _ ih =>
      subst hs
      obtain ⟨m, hfirst, hcount, -⟩ := hcall h.reads
      obtain ⟨m', rfl, hrest⟩ := ih (h.rest answer) rfl hs'
      exact ⟨m + m', by rw [hcount, Nat.add_assoc], hfirst.trans hrest⟩

/-- Without a change, the program returns what the store says. -/
theorem Once.result_of_unchanged (h : reader.Once program seen)
    (hexec : Exec reader.amid program (view, n) value (view', n)) :
    view' = view ∧ value = reader.result program view := by
  generalize hs : (view, n) = s at hexec
  generalize hs' : (view', n) = s' at hexec
  induction hexec generalizing view seen with
  | done =>
      obtain ⟨rfl, -⟩ := Prod.mk.inj (hs.trans hs'.symm)
      exact ⟨rfl, rfl⟩
  | @call c next s s₁ s' answer value hcall hrest ih =>
      subst hs hs'
      obtain ⟨view₁, n₁⟩ := s₁
      obtain ⟨m, hfirst, rfl, rfl⟩ := hcall h.reads
      obtain ⟨m', hcount, -⟩ := (h.rest _).changedBy hrest
      obtain rfl : m = 0 := by
        dsimp only at hcount
        omega
      obtain rfl : view₁ = view := hfirst.eq_of_zero
      exact ih (h.rest _) rfl rfl

/-- Amid a single change, it returns what the store says before or after it. -/
theorem Once.result_of_changedBy_one (h : reader.Once program seen)
    (hexec : Exec reader.amid program (view, n) value (view', n + 1)) :
    value = reader.result program view ∨ value = reader.result program view' := by
  generalize hs : (view, n) = s at hexec
  generalize hs' : (view', n + 1) = s' at hexec
  induction hexec generalizing view seen with
  | done => exact Or.inl rfl
  | @call c next s s₁ s' answer value hcall hrest ih =>
      subst hs hs'
      obtain ⟨view₁, n₁⟩ := s₁
      obtain ⟨m, hfirst, rfl, rfl⟩ := hcall h.reads
      obtain ⟨m', hcount, hchanged⟩ := (h.rest _).changedBy hrest
      dsimp only at hcount hfirst hrest ih ⊢
      obtain rfl | rfl : m = 0 ∨ m = 1 := by omega
      · obtain rfl : view₁ = view := hfirst.eq_of_zero
        rcases ih (h.rest _) rfl rfl with hbefore | hafter
        · exact Or.inl hbefore
        by_cases hkey : ∀ k, reader.key c = some k → view' k = view₁ k
        · -- this call would have been answered in the same way after the change
          refine Or.inr ?_
          rw [result, reader.answer_congr h.reads hkey]
          exact hafter
        · -- the key that changed was read before, so that the rest does not read it
          simp only [not_forall, exists_prop] at hkey
          obtain ⟨k, hk, hdiffers⟩ := hkey
          obtain rfl : m' = 1 := by omega
          obtain ⟨changed, hsame⟩ := hchanged.exists_key
          obtain rfl : k = changed := by
            by_contra hne
            exact hdiffers (hsame k hne)
          refine Or.inl (hafter.trans ((h.rest _).result_congr fun k' hk' => hsame k' ?_))
          rintro rfl
          rw [hk] at hk'
          exact hk' List.mem_cons_self
      · obtain ⟨rfl, hvalue⟩ := (h.rest _).result_of_unchanged hrest
        exact Or.inr hvalue

/-- Amid any changes, it returns what a store would say that holds every key as it
was when it was read, and the kept ones as they always were. -/
theorem Once.exists_result [DecidableEq κ] {kept : κ → Prop} (h : reader.Once program seen)
    (hexec : Exec (reader.amidKeeping kept) program view value view') :
    ∃ mixed, (∀ k, kept k → mixed k = view k) ∧ value = reader.result program mixed := by
  induction hexec generalizing seen with
  | @done value view => exact ⟨view, fun _ _ => rfl, rfl⟩
  | @call c next view view₁ view' answer value hcall _ ih =>
      obtain ⟨hkept, rfl⟩ := hcall h.reads
      obtain ⟨mixed, hmixed, hvalue⟩ := ih (h.rest _)
      cases hkey : reader.key c with
      | none =>
          have hanswer : reader.answer c mixed = reader.answer c view₁ :=
            reader.answer_congr h.reads fun k hk => by simp [hkey] at hk
          refine ⟨mixed, fun k hk => (hmixed k hk).trans (hkept k hk), ?_⟩
          rw [result, hanswer]
          exact hvalue
      | some key =>
          -- the rest does not read this key again
          have hanswer : reader.answer c (Function.update mixed key (view₁ key)) =
              reader.answer c view₁ := by
            refine reader.answer_congr h.reads fun k hk => ?_
            obtain rfl : key = k := Option.some.inj (hkey.symm.trans hk)
            exact Function.update_self ..
          have hrest : reader.result (next (reader.answer c view₁)) mixed =
              reader.result (next (reader.answer c view₁))
                (Function.update mixed key (view₁ key)) := by
            refine (h.rest _).result_congr fun k hk => ?_
            have hne : k ≠ key := by
              rintro rfl
              exact hk (by simp [hkey])
            exact (Function.update_of_ne hne _ _).symm
          refine ⟨Function.update mixed key (view₁ key), fun k hk => ?_, ?_⟩
          · by_cases hsame : k = key
            · subst hsame
              exact (Function.update_self ..).trans (hkept k hk)
            · exact (Function.update_of_ne hsame _ _).trans ((hmixed k hk).trans (hkept k hk))
          · rw [result, hanswer, ← hrest]
            exact hvalue

end Reader

end Effects
