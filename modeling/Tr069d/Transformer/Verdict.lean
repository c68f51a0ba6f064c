import Tr069d.Transformer.Transaction

/-!
# Runs of the validation

Validation asks the system for nothing but lines of the trace.  So it comes to the
verdict of `checkAll` whatever the system does, and on a system that is quiet about
these lines it leaves everything as it was.

* `run_stageItems` and `run_stageParameterKey` are the two parts of the validation.
* `run_setParameterValues_refused` and `run_setParameterValues_mock` are the two cases in
  which no transaction on UCI follows.
-/

namespace Tr069d

open Effects

/-- Writing to the trace changes nothing. -/
def Quiet {σ : Type} (handler : (c : SystemCall) → σ → system.Answer c × σ) : Prop :=
  ∀ text s, handler (.stderr text) s = ((), s)

namespace Engine

variable {σ : Type} {handler : (c : SystemCall) → σ → system.Answer c × σ} (engine : Engine) (s : σ)

/-! ## Any system -/

theorem run_stageItems_fst (items : List ParameterValue) :
    ((engine.stageItems items).run handler s).1 = checkItems engine.model items := by
  induction items generalizing s with
  | nil => rfl
  | cons item rest ih =>
      obtain ⟨message, hitem⟩ := engine.stageItem_eq item
      simp only [stageItems, checkItems, hitem, Prog.run_bind, Prog.pure_eq_done, Prog.run_done]
      cases checkItem engine.model item with
      | error error => rfl
      | ok staged =>
          simp only [Prog.run_bind, ih]
          cases checkItems engine.model rest <;> rfl

/-- The parameter key is traced if it is refused. -/
theorem stageParameterKey_eq (parameterKey : String) :
    (∃ message, engine.stageParameterKey parameterKey = do
      engine.trace "SET" message
      return checkParameterKey engine.model parameterKey) ∨
    engine.stageParameterKey parameterKey =
      return checkParameterKey engine.model parameterKey := by
  simp only [stageParameterKey, checkParameterKey]
  cases engine.model.lookup parameterKeyPath with
  | none => exact Or.inl ⟨_, rfl⟩
  | some spec =>
      obtain ⟨_, _, _, _, _, _, _, _, _, uci⟩ := spec
      cases uci with
      | none => exact Or.inl ⟨_, rfl⟩
      | some location =>
          dsimp only
          cases normalize _ parameterKey with
          | error message => exact Or.inl ⟨_, rfl⟩
          | ok value => exact Or.inr rfl

theorem run_stageParameterKey_fst (parameterKey : String) :
    ((engine.stageParameterKey parameterKey).run handler s).1 =
      checkParameterKey engine.model parameterKey := by
  rcases engine.stageParameterKey_eq parameterKey with ⟨message, heq⟩ | heq
  · rw [heq, Prog.run_bind]
    rfl
  · rw [heq]
    rfl

/-- What validation refuses, the engine refuses in the same words. -/
theorem run_setParameterValues_refused {items : List ParameterValue} {parameterKey : String}
    {error : SetError} (h : checkAll engine.model items parameterKey = .error error) :
    ((engine.setParameterValues items parameterKey).run handler s).1 = (.error error, engine) := by
  unfold checkAll at h
  simp only [setParameterValues, Prog.run_bind, run_stageItems_fst]
  cases hitems : checkItems engine.model items with
  | error other =>
      rw [hitems] at h
      cases h
      rfl
  | ok staged =>
      simp only [Prog.run_bind, run_stageParameterKey_fst]
      cases hkey : checkParameterKey engine.model parameterKey with
      | error other =>
          rw [hitems, hkey] at h
          cases h
          rfl
      | ok normalizedKey =>
          rw [hitems, hkey] at h
          cases h

/-! ## A quiet system -/

section Quiet

variable (hquiet : Quiet handler)
include hquiet

theorem run_trace (layer message : String) :
    (engine.trace layer message).run handler s = ((), s) := by
  unfold trace
  split_ifs
  · exact hquiet _ s
  · rfl

theorem run_stageItems (items : List ParameterValue) :
    (engine.stageItems items).run handler s = (checkItems engine.model items, s) := by
  refine Prod.ext (engine.run_stageItems_fst s items) ?_
  induction items generalizing s with
  | nil => rfl
  | cons item rest ih =>
      obtain ⟨message, hitem⟩ := engine.stageItem_eq item
      simp only [stageItems, hitem, Prog.run_bind, run_trace engine s hquiet, Prog.pure_eq_done,
        Prog.run_done]
      cases checkItem engine.model item with
      | error error => rfl
      | ok staged =>
          simp only [Prog.run_bind, run_stageItems_fst]
          cases checkItems engine.model rest <;> exact ih s

theorem run_stageParameterKey (parameterKey : String) :
    (engine.stageParameterKey parameterKey).run handler s =
      (checkParameterKey engine.model parameterKey, s) := by
  rcases engine.stageParameterKey_eq parameterKey with ⟨message, heq⟩ | heq
  · rw [heq, Prog.run_bind, run_trace engine s hquiet]
    rfl
  · rw [heq]
    rfl

/-- The mock backend takes what was accepted, whatever it is, if it can be saved. -/
theorem run_setParameterValues_mock {mock : MockDatabase} (hmock : engine.mock = some mock)
    (items : List ParameterValue) (parameterKey : String) :
    (engine.setParameterValues items parameterKey).run handler s =
      match checkAll engine.model items parameterKey with
      | .error error => ((.error error, engine), s)
      | .ok written =>
          let values := written.foldl (fun values item => values.insert item.key item.value)
            mock.values
          let saved := handler (.saveMock mock.path values) s
          match saved.1 with
          | some message => ((.error ⟨"", message⟩, engine), saved.2)
          | none => ((.ok (), { engine with mock := some { mock with values } }), saved.2) := by
  simp only [setParameterValues, Prog.run_bind, run_trace engine _ hquiet,
    run_stageItems engine _ hquiet, checkAll]
  cases hitems : checkItems engine.model items with
  | error error => rfl
  | ok staged =>
      simp only [Prog.run_bind, run_stageParameterKey engine _ hquiet]
      cases hkey : checkParameterKey engine.model parameterKey with
      | error error => rfl
      | ok normalizedKey =>
          -- the file is the only thing that the mock backend touches
          have hsave : ∀ values : Table, (@Prog.ask system (.saveMock mock.path values)).run
              handler s = handler (.saveMock mock.path values) s :=
            fun _ => rfl
          simp only [hmock, commitMock, Prog.run_bind, hsave]
          cases (handler (.saveMock mock.path _) s).1 <;>
            simp only [Prog.run_bind, run_trace engine _ hquiet] <;> rfl

end Quiet

end Engine

end Tr069d
