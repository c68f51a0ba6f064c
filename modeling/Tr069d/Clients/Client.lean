import Tr069d.Daemon.Persist
import Tr069d.Transformer.AllOrNothing

/-!
# The clients of the UCI package

Who writes the package `tr69`: the RPC handler of the daemon and the `trs`
command, which both run `setParameterValues`, and the daemon itself, which
stores its flags.  The options of the parameter map (`modelKey`) and the flags
(`flagKey`) are different options, so each kind of client works on its own keys.
-/

namespace Tr069d

open Effects

inductive Client
  | transaction (engine : UciEngine) (items : List ParameterValue) (parameterKey : String)
  | flag (write : FlagWrite)

/-- What a client returns. -/
inductive Report
  | transaction (result : Except SetError Unit)
  | flag (setOk commitOk : Bool)

def Report.success : Report → Bool
  | .transaction (.ok ()) => true
  | .transaction (.error _) => false
  | .flag setOk commitOk => setOk && commitOk

def Client.program : Client → SystemProg Report
  | .transaction engine items parameterKey => do
      let (result, _) ← engine.setParameterValues items parameterKey
      return .transaction result
  | .flag write => do
      let (setOk, commitOk) ← write.persist
      return .flag setOk commitOk

def Client.isTransaction : Client → Prop
  | .transaction _ _ _ => True
  | .flag _ => False

/-- The options that hold the flags of the daemon. -/
def flagKey (key : String) : Prop :=
  key = "tr69.settings.bootstrap_done" ∨ key = "tr69.settings.pending_reboot_event"

/-- The other options of the package. -/
def modelKey (key : String) : Prop :=
  inPackage "tr69" key ∧ ¬ flagKey key

theorem flagKey_key (write : FlagWrite) : flagKey write.key := by
  cases write <;> simp [flagKey, FlagWrite.key]

theorem inPackage_of_flagKey {key : String} (h : flagKey key) : inPackage "tr69" key := by
  rcases h with rfl | rfl <;> decide

theorem not_flagKey_of_lookup {path : String} {spec : Spec} {location : UciLocation}
    (hlookup : deviceMap.lookup path = some spec) (hmapped : spec.uci = some location) :
    ¬ flagKey (uciKey location) := by
  have hall : ∀ found, spec.uci = some found → ¬ (uciKey found = "tr69.settings.bootstrap_done" ∨
      uciKey found = "tr69.settings.pending_reboot_event") :=
    deviceMap.of_lookup_eq_some
      (P := fun spec => ∀ found, spec.uci = some found →
        ¬ (uciKey found = "tr69.settings.bootstrap_done" ∨
          uciKey found = "tr69.settings.pending_reboot_event"))
      (by decide) hlookup
  exact hall location hmapped

theorem modelKey_key {path : String} {item : StagedValue}
    (hlookup : deviceMap.lookup path = some item.spec) : modelKey item.key :=
  ⟨inPackage_key hlookup, not_flagKey_of_lookup hlookup item.mapped⟩

end Tr069d
