import Mathlib.Data.List.Basic
import Mathlib.Data.List.DropRight
import Tr069d.Text.Numerals

/-!
# Lua patterns

The patterns that `transformer.lua` takes URLs, addresses and the output of
`ubus` apart with.  None of them has to give back a character that a greedy
repetition took: what follows a repetition is never in its class.

Each definition is one pattern and gives its captures; a pattern that does not match
gives nothing.
-/

namespace Tr069d

/-- `^%s*(.-)%s*$` -/
def trimSpaces (text : List Char) : List Char :=
  (text.dropWhile isSpace).rdropWhile isSpace

/-- The first match of an unanchored pattern: `f` is the pattern, at a place. -/
def firstMatch {α : Type} (f : List Char → Option α) : List Char → Option α
  | [] => f []
  | c :: rest => (f (c :: rest)).or (firstMatch f rest)

/-- `^[class]+$` -/
def consistsOf (inClass : Char → Bool) (text : String) : Bool :=
  text ≠ "" && text.toList.all inClass

/-! ## URLs -/

/-- `^https?://`, with what follows it. -/
def afterHttp (url : List Char) : Option (List Char) :=
  (url.dropPrefix? "https://".toList).or (url.dropPrefix? "http://".toList)

/-- `[%w%+%.%-]` -/
def isSchemeChar (c : Char) : Bool :=
  c.isAlphanum || c ∈ ['+', '.', '-']

/-- `^%a[%w%+%.%-]*://`, with what follows it. -/
def afterScheme : List Char → Option (List Char)
  | [] => none
  | c :: rest =>
      if c.isAlpha then (rest.dropWhile isSchemeChar).dropPrefix? "://".toList else none

/-- `[^/:]` -/
def isHostChar (c : Char) : Bool :=
  c ≠ '/' && c ≠ ':'

/-- `([^/:]+)` -/
def hostPart (text : List Char) : Option (List Char) :=
  let host := text.takeWhile isHostChar
  if host.isEmpty then none else some host

/-- `:?(%d*)` -/
def portPart : List Char → List Char
  | ':' :: rest => rest.takeWhile Char.isDigit
  | rest => rest.takeWhile Char.isDigit

/-- `([^/:]+):?(%d*)` -/
def hostAndPort (text : List Char) : Option (String × String) :=
  (hostPart text).map fun host =>
    (String.ofList host, String.ofList (portPart (text.dropWhile isHostChar)))

/-! ## The output of `ubus` -/

/-- `"field"%s*:%s*`, with what follows it. -/
def afterField (field : String) (text : List Char) : Option (List Char) := do
  let rest ← text.dropPrefix? ('"' :: field.toList ++ ['"'])
  let rest ← (rest.dropWhile isSpace).dropPrefix? [':']
  return rest.dropWhile isSpace

/-- `"([^"]*)"` -/
def quotedText : List Char → Option (List Char)
  | '"' :: rest => if '"' ∈ rest then some (rest.takeWhile (· ≠ '"')) else none
  | _ => none

/-- The end of a `%b[]`, within `depth` more brackets than the one it closes. -/
def closeBrackets : Nat → List Char → Option (List Char)
  | _, [] => none
  | 0, ']' :: _ => some [']']
  | depth + 1, ']' :: rest => (closeBrackets depth rest).map (']' :: ·)
  | depth, '[' :: rest => (closeBrackets (depth + 1) rest).map ('[' :: ·)
  | depth, c :: rest => (closeBrackets depth rest).map (c :: ·)

/-- `(%b[])` -/
def bracketed : List Char → Option (List Char)
  | '[' :: rest => (closeBrackets 0 rest).map ('[' :: ·)
  | _ => none

example : bracketed "[a [b] c] d]".toList = some "[a [b] c]".toList := by decide

example : hostAndPort "acs.example:7547/cwmp".toList = some ("acs.example", "7547") := by decide

end Tr069d
