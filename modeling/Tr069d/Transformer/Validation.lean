import Tr069d.Transformer.Engine
import Tr069d.Uci.Region

/-!
# The validation of a batch, as a function

Before its first `uci` command `setParameterValues` only validates and traces:
`stageItems` computes `checkItems`, a function of the map and the batch, and
leaves the store alone.

`Staged` says what is made of an item that is accepted, and `stageItem_eq` that the loop
of the source traces each item and computes the verdict on it.
-/

namespace Tr069d

open Effects

/-- The verdict of the validation loop on one item. -/
def checkItem (model : DeviceMap) (item : ParameterValue) : Except SetError StagedValue :=
  match model.lookup item.name with
  | none => .error ⟨item.name, "unknown parameter"⟩
  | some spec =>
      if spec.access ≠ .readWrite then .error ⟨item.name, "parameter is read-only"⟩
      else
        match hmapped : spec.uci with
        | none => .error ⟨item.name, "parameter is read-only"⟩
        | some location =>
            match validateDeclaredType spec item.type with
            | some typeError => .error ⟨item.name, typeError⟩
            | none =>
                match normalize spec item.value with
                | .error message => .error ⟨item.name, message⟩
                | .ok value => .ok ⟨item.name, spec, location, hmapped, value⟩

/-- The verdict on a batch: that on the first refused item, if there is one. -/
def checkItems (model : DeviceMap) : List ParameterValue → Except SetError (List StagedValue)
  | [] => .ok []
  | item :: rest =>
      match checkItem model item with
      | .error error => .error error
      | .ok staged =>
          match checkItems model rest with
          | .error error => .error error
          | .ok others => .ok (staged :: others)

/-- The verdict on the parameter key. -/
def checkParameterKey (model : DeviceMap) (parameterKey : String) :
    Except SetError StagedValue :=
  match model.lookup Engine.parameterKeyPath with
  | none => .error ⟨Engine.parameterKeyPath, "mapping missing"⟩
  | some spec =>
      match hmapped : spec.uci with
      | none => .error ⟨Engine.parameterKeyPath, "mapping missing"⟩
      | some location =>
          match normalize spec parameterKey with
          | .error message => .error ⟨Engine.parameterKeyPath, message⟩
          | .ok value => .ok ⟨Engine.parameterKeyPath, spec, location, hmapped, value⟩

/-- `Staged item staged`: `staged` is what validation makes of `item`. -/
structure Staged (model : DeviceMap) (item : ParameterValue) (staged : StagedValue) : Prop where
  path : staged.path = item.name
  lookup : model.lookup item.name = some staged.spec
  writable : staged.spec.access = .readWrite
  declared : validateDeclaredType staged.spec item.type = none
  normalized : normalize staged.spec item.value = .ok staged.value

variable {model : DeviceMap}

theorem staged_of_checkItem {item : ParameterValue} {staged : StagedValue}
    (h : checkItem model item = .ok staged) : Staged model item staged := by
  unfold checkItem at h
  split at h
  · cases h
  · rename_i spec hlookup
    split_ifs at h with haccess
    split at h
    · cases h
    · split at h
      · cases h
      · rename_i hdeclared
        split at h
        · cases h
        · rename_i value hvalue
          cases h
          exact ⟨rfl, hlookup, not_not.mp haccess, hdeclared, hvalue⟩

theorem staged_of_checkItems {items : List ParameterValue} {staged : List StagedValue}
    (h : checkItems model items = .ok staged) : List.Forall₂ (Staged model) items staged := by
  induction items generalizing staged with
  | nil =>
      cases h
      exact .nil
  | cons item rest ih =>
      simp only [checkItems] at h
      split at h
      · cases h
      · rename_i first hfirst
        split at h
        · cases h
        · rename_i others hothers
          cases h
          exact .cons (staged_of_checkItem hfirst) (ih hothers)

theorem lookup_of_checkParameterKey {parameterKey : String} {staged : StagedValue}
    (h : checkParameterKey model parameterKey = .ok staged) :
    staged.path = Engine.parameterKeyPath ∧
      model.lookup Engine.parameterKeyPath = some staged.spec ∧
      normalize staged.spec parameterKey = .ok staged.value := by
  unfold checkParameterKey at h
  split at h
  · cases h
  · rename_i spec hlookup
    split at h
    · cases h
    · split at h
      · cases h
      · rename_i value hvalue
        cases h
        exact ⟨rfl, hlookup, hvalue⟩

/-! ## The engine computes the verdict -/

namespace Engine

variable (engine : Engine)

/-- An item is traced once, with the verdict as the result. -/
theorem stageItem_eq (item : ParameterValue) :
    ∃ message, engine.stageItem item = do
      engine.trace "SET" message
      return checkItem engine.model item := by
  simp only [stageItem, checkItem]
  cases engine.model.lookup item.name with
  | none => exact ⟨_, rfl⟩
  | some spec =>
      by_cases haccess : spec.access = .readWrite
      · simp only [haccess, ne_eq, not_true_eq_false, if_false]
        obtain ⟨_, _, _, _, _, _, _, _, _, uci⟩ := spec
        cases uci with
        | none => exact ⟨_, rfl⟩
        | some location =>
            dsimp only
            cases validateDeclaredType _ item.type with
            | some typeError => exact ⟨_, rfl⟩
            | none =>
                dsimp only
                cases normalize _ item.value <;> exact ⟨_, rfl⟩
      · simp only [haccess, ne_eq, not_false_eq_true, if_true]
        exact ⟨_, rfl⟩

end Engine

end Tr069d
