import Tr069d.Uci.Adapter

/-!
# The flags that the daemon stores

`Tr069Daemon::run` stores `bootstrap_done` and `pending_reboot_event` in UCI
itself: a `set` and a `commit` of the whole package, whose failure is only
logged.
-/

namespace Tr069d

/-- `boolText` -/
def boolText (value : Bool) : String :=
  if value then "true" else "false"

/-- The set and the commit of a flag, with the warning if one of them failed:
whether each of them worked. -/
def persistFlag (key value warning : String) : SystemProg (Bool × Bool) := do
  let setOk ← UciAdapter.set key value
  let commitOk ← UciAdapter.commit "tr69"
  if setOk && commitOk then return (setOk, commitOk)
  else
    Logger.log .warn ("[RUNTIME] " ++ warning ++ " failed set=" ++ boolText setOk ++
      " commit=" ++ boolText commitOk)
    return (setOk, commitOk)

/-- The places in `run` that store a flag. -/
inductive FlagWrite
  | bootstrapDone
  | clearPendingReboot
  | setPendingReboot
  deriving DecidableEq, Repr

def FlagWrite.key : FlagWrite → String
  | .bootstrapDone => "tr69.settings.bootstrap_done"
  | .clearPendingReboot => "tr69.settings.pending_reboot_event"
  | .setPendingReboot => "tr69.settings.pending_reboot_event"

def FlagWrite.value : FlagWrite → String
  | .bootstrapDone => "1"
  | .clearPendingReboot => "0"
  | .setPendingReboot => "1"

def FlagWrite.warning : FlagWrite → String
  | .bootstrapDone => "bootstrap_done persist"
  | .clearPendingReboot => "pending_reboot_event clear"
  | .setPendingReboot => "pending_reboot_event persist"

def FlagWrite.persist (write : FlagWrite) : SystemProg (Bool × Bool) :=
  persistFlag write.key write.value write.warning

end Tr069d
