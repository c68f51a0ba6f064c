import Mathlib.Data.Finmap
import Tr069d.Effects.Prog
import Tr069d.Types

/-!
# What the transformer and the UCI adapter ask of the system

Every `uci` invocation is a process of its own, so each of them is one call of
the program.  A call names the place in a transaction that makes it (`Phase`);
the programs never look at it, it only lets an environment say which calls may
fail.

The answers are what the program can see of a command: whether it succeeded, or what it
printed, with nothing for a command that failed.
-/

namespace Tr069d

open Effects

/-- A Lua table from strings to strings, such as the mock database. -/
abbrev Table : Type := Finmap fun _ : String => String

/-- Where a `uci` command stands in a transaction. -/
inductive Phase
  | lookup
  | forward
  | readBack
  | rollback
  deriving DecidableEq, Repr

/-- A call to the outside. -/
inductive SystemCall
  /-- `capture("uci -q get key")` -/
  | uciGet (phase : Phase) (key : String)
  /-- `uci -q set key=value` -/
  | uciSet (phase : Phase) (key value : String)
  /-- `uci -q delete key` -/
  | uciDelete (phase : Phase) (key : String)
  /-- `uci -q commit package` -/
  | uciCommit (phase : Phase) (package : String)
  /-- `capture` of any other command -/
  | capture (command : String)
  /-- `execute_ok` of any other command -/
  | executeOk (command : String)
  /-- `save_mock`: the error message, if it failed -/
  | saveMock (path : String) (values : Table)
  /-- `io.stderr:write` -/
  | stderr (text : String)
  /-- `Logger::log` -/
  | log (level : LogLevel) (message : String)

/-- The calls with their answers: the captured output, or whether it worked. -/
abbrev system : Signature where
  Call := SystemCall
  Answer
    | .uciGet _ _ => Option String
    | .uciSet _ _ _ => Bool
    | .uciDelete _ _ => Bool
    | .uciCommit _ _ => Bool
    | .capture _ => Option String
    | .executeOk _ => Bool
    | .saveMock _ _ => Option String
    | .stderr _ => Unit
    | .log _ _ => Unit

/-- A program that runs system commands. -/
abbrev SystemProg (α : Type) : Type := Prog system α

def Logger.log (level : LogLevel) (message : String) : SystemProg Unit :=
  @Prog.ask system (.log level message)

end Tr069d
