import Tr069d.Text.Numerals
import Tr069d.Uci.Commands

/-!
# The UCI adapter of the daemon

`UciAdapter.cpp`, outside its mock mode: the daemon always constructs it with
`mockMode = false`.

`boolOf` and `unsignedOf` are what is made of a captured value, apart from the call that
captures it, so that they can be compared with the engine.
-/

namespace Tr069d

open Effects

namespace UciAdapter

/-- `std::isalnum` in the C locale. -/
def isAlnum (c : Char) : Bool :=
  c.isUpper || c.isLower || c.isDigit

/-- `validKey` -/
def validKey (key : String) : Bool :=
  key ≠ "" && key.toList.all fun c => isAlnum c || c ∈ ['_', '-', '.', '@', '[', ']']

/-- `UciAdapter::get` -/
def get (key : String) : SystemProg (Option String) :=
  if validKey key then @Prog.ask system (.uciGet .lookup key)
  else do
    Logger.log .error ("Rejected invalid UCI key: " ++ key)
    return none

/-- `UciAdapter::set` -/
def set (key value : String) : SystemProg Bool :=
  if validKey key then do
    let ok ← @Prog.ask system (.uciSet .forward key value)
    if ok then return ok
    else
      Logger.log .error ("UCI set failed: " ++ key)
      return ok
  else do
    Logger.log .error ("Rejected invalid UCI set key: " ++ key)
    return false

/-- `UciAdapter::commit` -/
def commit (package : String) : SystemProg Bool :=
  if validKey package then do
    let ok ← @Prog.ask system (.uciCommit .forward package)
    if ok then return ok
    else
      Logger.log .error ("UCI commit failed: " ++ package)
      return ok
  else do
    Logger.log .error ("Rejected invalid UCI commit package: " ++ package)
    return false

/-- What `getBool` makes of the captured value. -/
def boolOf (value : Option String) (fallback : Bool) : Bool :=
  match value with
  | none => fallback
  | some value => value ∈ ["1", "true", "yes", "on"]

/-- `UciAdapter::getBool` -/
def getBool (key : String) (fallback : Bool) : SystemProg Bool := do
  return boolOf (← get key) fallback

/-- What `getUnsigned` makes of the captured value. -/
def unsignedOf (value : Option String) (fallback : Nat) : Nat :=
  match value with
  | none => fallback
  | some value =>
      match stoul value with
      | some (parsed, consumed) => if consumed = value.length then toUnsigned parsed else fallback
      | none => fallback

/-- `UciAdapter::getUnsigned` -/
def getUnsigned (key : String) (fallback : Nat) : SystemProg Nat := do
  return unsignedOf (← get key) fallback

end UciAdapter

end Tr069d
