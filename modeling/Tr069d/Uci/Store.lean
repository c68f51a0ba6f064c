import Mathlib.Data.List.DropRight
import Mathlib.Data.List.Infix
import Tr069d.Uci.Commands

/-!
# The UCI store

UCI keeps a committed configuration and an overlay of changes that were set or
deleted but not committed yet.  `get` reads through the overlay, `commit` merges
it into the committed configuration, one package at a time.

`uciEnv mayFail` is UCI as an environment: every command is atomic, and a
command for which `mayFail` holds may also fail and change nothing.

`uci get` fails on a missing key, and what captures its output then gives nil.  In the
engine that is what `close()` says of a command that failed, as Lua does since 5.2; Lua
5.1, which the script also runs on, says nothing of it there and leaves the empty
string.  In `UciAdapter.cpp` it is the result of `pclose`.
-/

namespace Tr069d

open Effects

structure Store where
  /-- The configuration on disk. -/
  committed : String → Option String
  /-- The staged changes: `some none` is a staged delete. -/
  staged : String → Option (Option String)

/-- A store with no staged change. -/
def Store.ofCommitted (committed : String → Option String) : Store :=
  ⟨committed, fun _ => none⟩

/-- What `uci get` sees. -/
def Store.view (store : Store) (key : String) : Option String :=
  match store.staged key with
  | some staged => staged
  | none => store.committed key

/-- `uci set key=value` -/
def Store.set (store : Store) (key value : String) : Store :=
  { store with staged := fun k => if k = key then some (some value) else store.staged k }

/-- `uci delete key` -/
def Store.delete (store : Store) (key : String) : Store :=
  { store with staged := fun k => if k = key then some none else store.staged k }

/-- The keys of a package are `package.section.option`. -/
def inPackage (package key : String) : Prop :=
  package.toList ++ ['.'] <+: key.toList

instance (package key : String) : Decidable (inPackage package key) :=
  inferInstanceAs (Decidable (_ <+: _))

/-- `uci commit package` -/
def Store.commit (store : Store) (package : String) : Store where
  committed key := if inPackage package key then store.view key else store.committed key
  staged key := if inPackage package key then none else store.staged key

/-! ## Captured output -/

def isLineBreak (c : Char) : Bool := c = '\r' || c = '\n'

/-- `value:gsub("[\r\n]+$", "")`, and the loop at the end of `runCapture`. -/
def trimLineBreaks (output : String) : String :=
  String.ofList (output.toList.rdropWhile isLineBreak)

/-- What a caller captures of `uci get`, which prints the value and a newline. -/
def printed (value : String) : String :=
  trimLineBreaks (value ++ "\n")

/-- A value that does not end in CR or LF. -/
def NoTrailingBreak (value : String) : Prop :=
  trimLineBreaks value = value

theorem printed_eq_trimLineBreaks (value : String) : printed value = trimLineBreaks value := by
  simp [printed, trimLineBreaks, isLineBreak]

theorem printed_of_noTrailingBreak {value : String} (h : NoTrailingBreak value) :
    printed value = value := by
  rw [printed_eq_trimLineBreaks, h]

theorem noTrailingBreak_of_forall {value : String}
    (h : ∀ c ∈ value.toList, isLineBreak c = false) : NoTrailingBreak value := by
  have hlast : ∀ hne : value.toList ≠ [], ¬isLineBreak (value.toList.getLast hne) = true := by
    intro hne
    rw [h _ (List.getLast_mem hne)]
    exact Bool.false_ne_true
  rw [NoTrailingBreak, trimLineBreaks, List.rdropWhile_eq_self_iff.mpr hlast,
    String.ofList_toList]

/-- Capturing strips whatever could be stripped. -/
theorem noTrailingBreak_printed (value : String) : NoTrailingBreak (printed value) := by
  simp [NoTrailingBreak, printed_eq_trimLineBreaks, trimLineBreaks, List.rdropWhile_idempotent]

/-! ## The environment -/

/-- UCI, with any subset of the calls in `mayFail` failing.  Deleting a key that
is not there answers anything and stages a delete or nothing. -/
def uciEnv (mayFail : SystemCall → Prop) : Env system Store
  | .uciGet phase key, store, answer, store' => store' = store ∧
      (answer = (store.view key).map printed ∨ mayFail (.uciGet phase key) ∧ answer = none)
  | .uciSet phase key value, store, answer, store' =>
      answer = true ∧ store' = store.set key value ∨
        mayFail (.uciSet phase key value) ∧ answer = false ∧ store' = store
  | .uciDelete phase key, store, answer, store' =>
      if store.view key = none then store' = store ∨ store' = store.delete key
      else answer = true ∧ store' = store.delete key ∨
        mayFail (.uciDelete phase key) ∧ answer = false ∧ store' = store
  | .uciCommit phase package, store, answer, store' =>
      answer = true ∧ store' = store.commit package ∨
        mayFail (.uciCommit phase package) ∧ answer = false ∧ store' = store
  | .capture _, store, _, store' => store' = store
  | .executeOk _, store, _, store' => store' = store
  | .saveMock _ _, store, _, store' => store' = store
  | .stderr _, store, _, store' => store' = store
  | .log _ _, store, _, store' => store' = store

/-- UCI without faults, as a handler; every other command fails. -/
def uciHandler : (c : SystemCall) → Store → system.Answer c × Store
  | .uciGet _ key, store => ((store.view key).map printed, store)
  | .uciSet _ key value, store => (true, store.set key value)
  | .uciDelete _ key, store => ((store.view key).isSome, store.delete key)
  | .uciCommit _ package, store => (true, store.commit package)
  | .capture _, store => (none, store)
  | .executeOk _, store => (false, store)
  | .saveMock _ _, store => (some "", store)
  | .stderr _, store => ((), store)
  | .log _ _, store => ((), store)

theorem uciHandler_mem_uciEnv (mayFail : SystemCall → Prop) (c : SystemCall) (store : Store) :
    uciEnv mayFail c store (uciHandler c store).1 (uciHandler c store).2 := by
  cases c with
  | uciDelete phase key =>
      by_cases hmissing : store.view key = none <;>
        simp [uciEnv, uciHandler, hmissing, Option.isSome_iff_ne_none]
  | _ => simp [uciEnv, uciHandler]

/-- UCI in which the calls of `fails` fail. -/
def faultyHandler (fails : SystemCall → Bool) : (c : SystemCall) → Store → system.Answer c × Store
  | .uciGet phase key, store =>
      if fails (.uciGet phase key) then (none, store) else uciHandler (.uciGet phase key) store
  | .uciSet phase key value, store =>
      if fails (.uciSet phase key value) then (false, store)
      else uciHandler (.uciSet phase key value) store
  | .uciCommit phase package, store =>
      if fails (.uciCommit phase package) then (false, store)
      else uciHandler (.uciCommit phase package) store
  | c, store => uciHandler c store

theorem faultyHandler_mem_uciEnv {fails : SystemCall → Bool} {mayFail : SystemCall → Prop}
    (h : ∀ c, fails c = true → mayFail c) (c : SystemCall) (store : Store) :
    uciEnv mayFail c store (faultyHandler fails c store).1 (faultyHandler fails c store).2 := by
  cases c with
  | uciGet phase key =>
      cases hfails : fails (.uciGet phase key) with
      | true => simp [faultyHandler, hfails, uciEnv, h _ hfails]
      | false => simpa [faultyHandler, hfails] using uciHandler_mem_uciEnv mayFail _ store
  | uciSet phase key value =>
      cases hfails : fails (.uciSet phase key value) with
      | true => simp [faultyHandler, hfails, uciEnv, h _ hfails]
      | false => simpa [faultyHandler, hfails] using uciHandler_mem_uciEnv mayFail _ store
  | uciCommit phase package =>
      cases hfails : fails (.uciCommit phase package) with
      | true => simp [faultyHandler, hfails, uciEnv, h _ hfails]
      | false => simpa [faultyHandler, hfails] using uciHandler_mem_uciEnv mayFail _ store
  | _ => exact uciHandler_mem_uciEnv mayFail _ store

/-! ## Views -/

section Views

variable (store : Store) (key value package : String)

theorem view_set : (store.set key value).view = Function.update store.view key (some value) := by
  funext k
  by_cases hk : k = key <;> simp [Store.view, Store.set, Function.update, hk]

theorem view_delete : (store.delete key).view = Function.update store.view key none := by
  funext k
  by_cases hk : k = key <;> simp [Store.view, Store.delete, Function.update, hk]

/-- Committing changes nothing for the readers. -/
@[simp] theorem view_commit : (store.commit package).view = store.view := by
  funext k
  by_cases hk : inPackage package k <;> simp [Store.view, Store.commit, hk]

variable {package key} in
theorem committed_commit (hkey : inPackage package key) :
    (store.commit package).committed key = store.view key :=
  if_pos hkey

@[simp] theorem committed_set : (store.set key value).committed = store.committed := rfl

@[simp] theorem committed_delete : (store.delete key).committed = store.committed := rfl

@[simp] theorem view_ofCommitted (committed : String → Option String) :
    (Store.ofCommitted committed).view = committed := rfl

end Views

end Tr069d
