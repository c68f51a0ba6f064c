import Tr069d.Effects.Calls
import Tr069d.Transformer.LuaTransformer
import Tr069d.Transformer.Getters

/-!
# Reading changes nothing

`getParameterValues` and `getParameterNames` run commands that look at the system,
but none that writes an option or asks the daemon to reload, whatever they find.

`SystemCall.ReadsOnly` singles out these commands, there is one `calls_` lemma for each
function that only reads, and `wp_of_readsOnly` turns them into a statement about the
store.
-/

namespace Tr069d

open Effects

/-- The command only looks. -/
def SystemCall.ReadsOnly : SystemCall → Prop
  | .uciSet _ _ _ | .uciDelete _ _ | .uciCommit _ _ | .executeOk _ | .saveMock _ _ => False
  | .uciGet _ _ | .capture _ | .stderr _ | .log _ _ => True

open SystemCall

/-- A program that only looks leaves the store alone, whatever fails. -/
theorem wp_of_readsOnly {mayFail : SystemCall → Prop} {α : Type} {program : SystemProg α}
    {store : Store} (hcalls : program.Calls ReadsOnly) :
    wp (uciEnv mayFail) (fun _ => True) program (fun _ store' => store' = store) store := by
  have hkeep : ∀ c s answer s', ReadsOnly c → s = store → uciEnv mayFail c s answer s' →
      s' = store := by
    intro c s answer s' hreads hs hcall
    cases c with
    | uciGet => exact hcall.1.trans hs
    | capture | stderr | log => exact hcall.trans hs
    | uciSet | uciDelete | uciCommit | executeOk | saveMock => exact hreads.elim
  exact wp_of_calls hcalls hkeep rfl fun _ _ hs => hs

theorem store_eq_of_readsOnly {mayFail : SystemCall → Prop} {α : Type} {program : SystemProg α}
    {store store' : Store} {value : α} (hcalls : program.Calls ReadsOnly)
    (hexec : Exec (uciEnv mayFail) program store value store') : store' = store :=
  hexec.of_wp (wp_of_readsOnly hcalls)

namespace Engine

variable (engine : Engine)

theorem calls_trace (layer message : String) : (engine.trace layer message).Calls ReadsOnly := by
  unfold trace
  split
  · exact Prog.calls_ask trivial
  · exact Prog.calls_pure _

theorem calls_rawGet (phase : Phase) (key : String) :
    (engine.rawGet phase key).Calls ReadsOnly := by
  have hget : (@Prog.ask system (.uciGet phase key)).Calls ReadsOnly := Prog.calls_ask trivial
  unfold rawGet
  split
  · exact (engine.calls_trace _ _).bind fun _ => Prog.calls_pure _
  · exact hget.bind fun _ => (engine.calls_trace _ _).bind fun _ => Prog.calls_pure _

theorem calls_capture (command : String) : (capture command).Calls ReadsOnly :=
  Prog.calls_ask trivial

theorem calls_ipFromUbusInterface (interface : String) :
    (engine.ipFromUbusInterface interface).Calls ReadsOnly := by
  unfold ipFromUbusInterface
  split
  · exact Prog.calls_pure _
  refine (engine.calls_trace _ _).bind fun _ => (calls_capture _).bind fun status => ?_
  split
  · exact Prog.calls_pure _
  split
  · exact Prog.calls_pure _
  split
  · exact Prog.calls_pure _
  split
  · exact Prog.calls_pure _
  split
  · exact (calls_capture _).bind fun _ => Prog.calls_pure _
  · exact Prog.calls_pure _

theorem calls_ipFromRouteToAcs : engine.ipFromRouteToAcs.Calls ReadsOnly := by
  unfold ipFromRouteToAcs
  refine (engine.calls_rawGet _ _).bind fun url => ?_
  split
  · exact Prog.calls_pure _
  · exact (calls_capture _).bind fun _ => Prog.calls_pure _

theorem calls_configuredConnectionRequestUrl :
    engine.configuredConnectionRequestUrl.Calls ReadsOnly := by
  unfold configuredConnectionRequestUrl
  refine (engine.calls_rawGet _ _).bind fun option => ?_
  split
  · exact Prog.calls_pure _
  split
  · exact Prog.calls_pure _
  refine (engine.calls_rawGet _ _).bind fun acs => ?_
  dsimp only
  split
  · exact (engine.calls_trace _ _).bind fun _ => Prog.calls_pure _
  split
  · exact (engine.calls_trace _ _).bind fun _ => Prog.calls_pure _
  · exact Prog.calls_pure _

theorem calls_localIpv4 (interface : String) : (engine.localIpv4 interface).Calls ReadsOnly := by
  unfold localIpv4
  refine (engine.calls_ipFromUbusInterface _).bind fun ubus => ?_
  split
  · exact Prog.calls_pure _
  refine engine.calls_ipFromRouteToAcs.bind fun route => ?_
  split
  · exact Prog.calls_pure _
  refine (engine.calls_rawGet _ _).bind fun option => ?_
  split
  · exact Prog.calls_pure _
  · exact (engine.calls_rawGet _ _).bind fun _ => Prog.calls_pure _

theorem calls_connectionRequestUrl : engine.connectionRequestUrl.Calls ReadsOnly := by
  unfold connectionRequestUrl
  refine engine.calls_configuredConnectionRequestUrl.bind fun configured => ?_
  split
  · exact Prog.calls_pure _
  refine (engine.calls_rawGet _ _).bind fun option => ?_
  refine (engine.calls_localIpv4 _).bind fun ip => ?_
  split
  · exact (engine.calls_trace _ _).bind fun _ => Prog.calls_pure _
  · exact (engine.calls_rawGet _ _).bind fun _ => Prog.calls_pure _

theorem calls_getterTable (getter : Getter) (spec : Spec) :
    (engine.getterTable getter spec).Calls ReadsOnly := by
  have hcaptured : ∀ command, (capturedOr spec command).Calls ReadsOnly := by
    intro command
    refine (calls_capture command).bind fun output => ?_
    split
    · exact Prog.calls_pure _
    · exact Prog.calls_pure _
  cases getter with
  | serialNumber => exact hcaptured _
  | softwareVersion => exact hcaptured _
  | connectionRequestUrl =>
      exact engine.calls_connectionRequestUrl.bind fun _ => Prog.calls_pure _

theorem calls_getParameterNames (path : String) :
    (engine.getParameterNames path).Calls ReadsOnly := by
  unfold getParameterNames
  refine (engine.calls_trace _ _).bind fun _ => ?_
  dsimp only
  split
  · exact (engine.calls_trace _ _).bind fun _ => Prog.calls_pure _
  · exact (engine.calls_trace _ _).bind fun _ => Prog.calls_pure _

end Engine

namespace CpeEngine

variable (engine : CpeEngine)

theorem calls_read (path : String) (revealSecrets : Bool) :
    (engine.read path revealSecrets).Calls ReadsOnly := by
  unfold Engine.read
  split
  · exact Prog.calls_pure _
  split
  · exact Prog.calls_pure _
  split
  · rw [engine.getters_eq]
    exact (engine.calls_getterTable _ _).bind fun _ => Prog.calls_pure _
  · exact Prog.calls_pure _
  · refine (engine.calls_rawGet _ _).bind fun value => ?_
    split
    · exact Prog.calls_pure _
    · exact Prog.calls_pure _

theorem calls_getParameterValues (paths : List String) (revealSecrets : Bool) :
    (engine.getParameterValues paths revealSecrets).Calls ReadsOnly := by
  have hloop : (Engine.getParameterValues.loop engine.toEngine revealSecrets paths).Calls
      ReadsOnly := by
    induction paths with
    | nil => exact Prog.calls_pure _
    | cons path rest ih =>
        unfold Engine.getParameterValues.loop
        split
        · exact (engine.calls_trace _ _).bind fun _ => ih.bind fun _ => Prog.calls_pure _
        · refine (engine.calls_trace _ _).bind fun _ => ?_
          refine (engine.calls_read path revealSecrets).bind fun value => ?_
          exact (engine.calls_trace _ _).bind fun _ => ih.bind fun _ => Prog.calls_pure _
  exact (engine.calls_trace _ _).bind fun _ => hloop

end CpeEngine

end Tr069d
