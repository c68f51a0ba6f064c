import Mathlib.Data.List.Basic
import Mathlib.Data.List.Induction
import Mathlib.Data.List.TakeWhile
import Tr069d.Effects.Prog

/-!
# The stack of the Lua C API

What a C program does with a Lua state, one function of the API at a time.
Everything that the manual leaves undefined is a `Fault`: an index that is not
valid, a pop from an empty stack, a push beyond the `LUA_MINSTACK` slots that
a C function may use unasked, an error outside a protected call.  A program
that never faults therefore keeps to the stack discipline.

The Lua functions themselves are a parameter, with a state of their own
(`Callee`).  What they may do is narrower than in Lua:

* Tables have no metatables.  `lua_getfield` and `lua_setfield` would run `__index`
  and `__newindex` outside a protected call, and an error there ends the process.
* A table is a value, not a reference.  This is enough for a program that fills a
  table in one stack slot before it hands it out, and for functions that do not
  change a table once they have returned it.
* They leave the registry alone: what `luaL_ref` stored stays where it is.
* Memory does not run out.  The API raises memory errors too, and most of its calls
  that make a value are outside a protected call.
-/

namespace Lua

open Effects

inductive TKey
  | index (i : Nat)
  | field (name : String)
  deriving DecidableEq

/-- A Lua value.  A number is the text that `lua_tostring` makes of it, a
function is its name. -/
inductive TValue
  | nil
  | boolean (value : Bool)
  | number (text : String)
  | string (text : String)
  | table (entries : List (TKey × TValue))
  | function (name : String)

abbrev Entries : Type := List (TKey × TValue)

namespace Entries

def get (entries : Entries) (key : TKey) : TValue :=
  (entries.lookup key).getD .nil

def set (entries : Entries) (key : TKey) (value : TValue) : Entries :=
  entries.filter (fun entry => entry.1 ≠ key) ++ [(key, value)]

/-- The table `{values...}`. -/
def sequence (values : List TValue) : Entries :=
  values.zipIdx.map fun entry => (.index (entry.2 + 1), entry.1)

/-- The table `{name = value, ...}`. -/
def record (fields : List (String × TValue)) : Entries :=
  fields.map fun field => (.field field.1, field.2)

@[simp] theorem sequence_nil : sequence [] = [] := rfl

@[simp] theorem sequence_concat (values : List TValue) (value : TValue) :
    sequence (values ++ [value]) = sequence values ++ [(.index (values.length + 1), value)] := by
  simp [sequence, List.zipIdx_append]

theorem lookup_sequence (values : List TValue) (i : Nat) :
    (sequence values).lookup (.index (i + 1)) = values[i]? := by
  induction values using List.reverseRecOn with
  | nil => rfl
  | append_singleton values value ih =>
      rw [sequence_concat, List.lookup_append, ih]
      rcases Nat.lt_trichotomy i values.length with hlt | rfl | hgt
      · simp [List.getElem?_append_left hlt, List.getElem?_eq_getElem hlt]
      · simp
      · have hbeyond : values.length + 1 ≤ i := hgt
        have hother : (TKey.index (i + 1) == TKey.index (values.length + 1)) = false := by
          simp only [beq_eq_false_iff_ne, ne_eq, TKey.index.injEq]
          omega
        simp [List.lookup_cons, hother, List.getElem?_eq_none hgt.le,
          List.getElem?_eq_none (show (values ++ [value]).length ≤ i by simpa using hbeyond)]

theorem get_sequence (values : List TValue) (i : Nat) :
    get (sequence values) (.index (i + 1)) = values[i]?.getD .nil := by
  rw [get, lookup_sequence]

/-- The next entry of a sequence. -/
theorem set_sequence (values : List TValue) (value : TValue) :
    set (sequence values) (.index (values.length + 1)) value = sequence (values ++ [value]) := by
  have hfresh : ∀ entry ∈ sequence values, entry.1 ≠ .index (values.length + 1) := by
    intro entry hentry
    simp only [sequence, List.mem_map] at hentry
    obtain ⟨⟨other, i⟩, hmem, rfl⟩ := hentry
    have hlt := List.snd_lt_of_mem_zipIdx hmem
    simp only [ne_eq, TKey.index.injEq]
    omega
  rw [sequence_concat, set, List.filter_eq_self.mpr (by simpa using hfresh)]

/-- What `ipairs` walks over: the entries 1, 2, ... up to the first that is nil. -/
def ipairs (entries : Entries) : List TValue :=
  walk entries.length 1
where
  walk : Nat → Nat → List TValue
    | 0, _ => []
    | fuel + 1, i =>
        match entries.get (.index i) with
        | .nil => []
        | value => value :: walk fuel (i + 1)

theorem ipairs_walk_sequence (values : List TValue) (hvalues : TValue.nil ∉ values) (i : Nat) :
    ipairs.walk (sequence values) (values.length - i) (i + 1) = values.drop i := by
  induction hleft : values.length - i generalizing i with
  | zero =>
      rw [List.drop_eq_nil_of_le (by omega)]
      rfl
  | succ left ih =>
      have hlt : i < values.length := by omega
      have hnonnil : values[i] ≠ .nil := fun h => hvalues (h ▸ List.getElem_mem hlt)
      rw [ipairs.walk, get_sequence, List.getElem?_eq_getElem hlt, Option.getD_some,
        ih (i + 1) (by omega), List.drop_eq_getElem_cons hlt]
      split
      · contradiction
      · rfl

theorem length_sequence (values : List TValue) : (sequence values).length = values.length := by
  rw [sequence, List.length_map, List.length_zipIdx]

theorem ipairs_sequence {values : List TValue} (hvalues : TValue.nil ∉ values) :
    ipairs (sequence values) = values := by
  have hwalk := ipairs_walk_sequence values hvalues 0
  rw [Nat.sub_zero, Nat.zero_add, List.drop_zero] at hwalk
  rw [ipairs, length_sequence, hwalk]

end Entries

/-- `lua_rawlen` gives some border of a table; a sequence has one. -/
structure Border where
  length : Entries → Nat
  length_sequence : ∀ values, length (Entries.sequence values) = values.length

namespace TValue

def truthy : TValue → Bool
  | .nil => false
  | .boolean value => value
  | _ => true

/-- `lua_tostring`, before it is read as a C string. -/
def text? : TValue → Option String
  | .number text | .string text => some text
  | _ => none

def isString (value : TValue) : Bool :=
  value.text?.isSome

def isTable : TValue → Bool
  | .table _ => true
  | _ => false

def isFunction : TValue → Bool
  | .function _ => true
  | _ => false

theorem isTable_table (entries : Entries) : (table entries).isTable = true := rfl

theorem isFunction_function (name : String) : (function name).isFunction = true := rfl

theorem exists_table {value : TValue} (h : value.isTable = true) :
    ∃ entries, value = .table entries := by
  cases value with
  | table entries => exact ⟨entries, rfl⟩
  | _ => cases h

theorem exists_function {value : TValue} (h : value.isFunction = true) :
    ∃ name, value = .function name := by
  cases value with
  | function name => exact ⟨name, rfl⟩
  | _ => cases h

end TValue

/-- A C string ends at its first zero byte. -/
def cText (text : String) : String :=
  String.ofList (text.toList.takeWhile (· ≠ '\x00'))

theorem cText_eq_self {text : String} (h : '\x00' ∉ text.toList) : cText text = text := by
  have htake : text.toList.takeWhile (· ≠ '\x00') = text.toList := by
    apply List.takeWhile_eq_self_iff.mpr
    intro c hc
    simpa using fun heq : c = '\x00' => h (heq ▸ hc)
  rw [cText, htake, String.ofList_toList]

inductive Fault
  | invalidIndex
  | underflow
  | overflow
  | unprotected
  deriving DecidableEq, Repr

def minStack : Nat := 20

/-- A Lua state: the stack, its top first, the references of the registry, and
what the functions keep between calls. -/
structure State (σ : Type) where
  stack : List TValue
  registry : List TValue
  upvalues : σ

variable {σ α β : Type}

/-- A function of the API that calls no Lua. -/
abbrev Api (σ α : Type) : Type := StateT (State σ) (Except Fault) α

namespace Api

/-- `lua_absindex` -/
def absindex (index : Int) : Api σ Int := fun s =>
  .ok (if 0 < index then index else s.stack.length + index + 1, s)

/-- Where a stack index points, counted from the top. -/
def depth (size : Nat) (index : Int) : Option Nat :=
  if 0 < index then if index ≤ size then some (size - index.toNat) else none
  else if index < 0 then if -index ≤ size then some ((-index).toNat - 1) else none
  else none

/-- The value at an index. -/
def value (index : Int) : Api σ TValue := fun s =>
  match (depth s.stack.length index).bind (s.stack[·]?) with
  | some found => .ok (found, s)
  | none => .error .invalidIndex

def push (pushed : TValue) : Api σ Unit := fun s =>
  if s.stack.length < minStack then .ok ((), { s with stack := pushed :: s.stack })
  else .error .overflow

/-- `lua_pop` -/
def pop (count : Nat) : Api σ Unit := fun s =>
  if count ≤ s.stack.length then .ok ((), { s with stack := s.stack.drop count })
  else .error .underflow

/-- `lua_settop(state, 0)` -/
def clear : Api σ Unit := fun s =>
  .ok ((), { s with stack := [] })

/-- `lua_remove` -/
def remove (index : Int) : Api σ Unit := fun s =>
  match depth s.stack.length index with
  | some i => .ok ((), { s with stack := s.stack.eraseIdx i })
  | none => .error .invalidIndex

/-- `lua_pushvalue` -/
def pushvalue (index : Int) : Api σ Unit := do
  push (← value index)

/-- The table at an index; anything else raises an error when it is indexed. -/
def entries (index : Int) : Api σ Entries := do
  match ← value index with
  | .table found => return found
  | _ => throw .unprotected

/-- `lua_getfield`, on a table without metatable: a field that is missing is nil, and
no `__index` runs. -/
def getfield (index : Int) (name : String) : Api σ Unit := do
  push ((← entries index).get (.field name))

/-- `lua_rawgeti` -/
def rawgeti (index : Int) (i : Nat) : Api σ Unit := do
  push ((← entries index).get (.index i))

/-- The value on the top becomes the entry `key` of the table at `index`. -/
def store (index : Int) (key : TKey) : Api σ Unit := do
  let stored ← value (-1)
  let found ← entries index
  fun s =>
    match depth s.stack.length index with
    | some i => .ok ((), { s with stack := (s.stack.set i (.table (found.set key stored))).drop 1 })
    | none => .error .invalidIndex

/-- `lua_setfield` -/
def setfield (index : Int) (name : String) : Api σ Unit :=
  store index (.field name)

/-- `lua_rawseti` -/
def rawseti (index : Int) (i : Nat) : Api σ Unit :=
  store index (.index i)

/-- `lua_rawlen` -/
def rawlen (border : Border) (index : Int) : Api σ Nat := do
  return border.length (← entries index)

/-- `luaL_ref` on the registry. -/
def ref : Api σ Nat := do
  let referenced ← value (-1)
  pop 1
  fun s => .ok (s.registry.length, { s with registry := s.registry ++ [referenced] })

/-- `lua_rawgeti` on the registry. -/
def rawgetref (reference : Nat) : Api σ Unit := do
  push (((← get).registry[reference]?).getD .nil)

/-- The loop that fills the table on the top with one value an item: `element`
pushes it, `lua_rawseti` takes it into the table. -/
def fill (element : α → Api σ Unit) : Nat → List α → Api σ Unit
  | _, [] => return ()
  | i, item :: rest => do
      element item
      rawseti (-2) (i + 1)
      fill element (i + 1) rest

/-- The loop that reads `count` entries of the table at `index` from `i` on:
each is pushed, read by `body` and popped. -/
def collect (index : Int) (body : Api σ (List α)) : Nat → Nat → Api σ (List α)
  | _, 0 => return []
  | i, count + 1 => do
      rawgeti index i
      let first ← body
      pop 1
      let others ← collect index body (i + 1) count
      return first ++ others

/-! ## What the functions do to a stack that they find in order -/

section Rules

variable {s s' : State σ} {stack registry : List TValue} {upvalues : σ} {found : Entries}
  {index : Int}

theorem bind_ok {first : Api σ α} {next : α → Api σ β} {result : α}
    (h : first s = .ok (result, s')) : (first >>= next) s = next result s' := by
  change (first s >>= fun step => next step.1 step.2) = _
  rw [h]
  rfl

@[simp] theorem pure_apply (result : α) : (pure result : Api σ α) s = .ok (result, s) := rfl

theorem depth_top (size : Nat) : depth (size + 1) (-1) = some 0 := by
  have hsize : -(-1 : Int) ≤ (size + 1 : Nat) := by omega
  simp only [depth, if_pos hsize]
  rfl

theorem depth_second (size : Nat) : depth (size + 2) (-2) = some 1 := by
  have hsize : -(-2 : Int) ≤ (size + 2 : Nat) := by omega
  simp only [depth, if_pos hsize]
  rfl

@[simp] theorem value_top (top : TValue) :
    value (-1) ⟨top :: stack, registry, upvalues⟩ =
      .ok (top, ⟨top :: stack, registry, upvalues⟩) := by
  simp only [value, List.length_cons, depth_top]
  rfl

@[simp] theorem value_second (top second : TValue) :
    value (-2) ⟨top :: second :: stack, registry, upvalues⟩ =
      .ok (second, ⟨top :: second :: stack, registry, upvalues⟩) := by
  simp only [value, List.length_cons, depth_second]
  rfl

/-- The absolute index of the top names it, whatever is pushed later. -/
theorem value_absolute (above : List TValue) (named : TValue) :
    value (stack.length + 1) ⟨above ++ named :: stack, registry, upvalues⟩ =
      .ok (named, ⟨above ++ named :: stack, registry, upvalues⟩) := by
  have hpositive : (0 : Int) < stack.length + 1 := by omega
  have hsize : (stack.length : Int) + 1 ≤ (above ++ named :: stack).length := by
    simp only [List.length_append, List.length_cons]
    omega
  have hdepth : (above ++ named :: stack).length - ((stack.length : Int) + 1).toNat =
      above.length := by
    simp only [List.length_append, List.length_cons]
    omega
  simp only [value, depth, if_pos hpositive, if_pos hsize, hdepth, Option.bind_some]
  rw [List.getElem?_append_right le_rfl, Nat.sub_self]
  rfl

theorem push_ok (pushed : TValue) (hroom : stack.length < minStack) :
    push pushed ⟨stack, registry, upvalues⟩ = .ok ((), ⟨pushed :: stack, registry, upvalues⟩) := by
  simp [push, hroom]

@[simp] theorem pop_one (top : TValue) :
    pop 1 ⟨top :: stack, registry, upvalues⟩ = .ok ((), ⟨stack, registry, upvalues⟩) := by
  simp [pop]

theorem clear_ok (s : State σ) : clear s = .ok ((), { s with stack := [] }) := rfl

theorem entries_ok (hindex : value index s = .ok (.table found, s)) :
    entries index s = .ok (found, s) :=
  bind_ok hindex

theorem getfield_ok (name : String) (hindex : value index s = .ok (.table found, s))
    (hroom : s.stack.length < minStack) :
    getfield index name s =
      .ok ((), { s with stack := found.get (.field name) :: s.stack }) :=
  (bind_ok (entries_ok hindex)).trans (push_ok _ hroom)

theorem rawgeti_ok (i : Nat) (hindex : value index s = .ok (.table found, s))
    (hroom : s.stack.length < minStack) :
    rawgeti index i s = .ok ((), { s with stack := found.get (.index i) :: s.stack }) :=
  (bind_ok (entries_ok hindex)).trans (push_ok _ hroom)

theorem store_second (key : TKey) (top : TValue) :
    store (-2) key ⟨top :: .table found :: stack, registry, upvalues⟩ =
      .ok ((), ⟨.table (found.set key top) :: stack, registry, upvalues⟩) := by
  rw [store, bind_ok (value_top top), bind_ok (entries_ok (value_second top (.table found)))]
  simp only [List.length_cons, depth_second]
  rfl

theorem remove_second (top second : TValue) :
    remove (-2) ⟨top :: second :: stack, registry, upvalues⟩ =
      .ok ((), ⟨top :: stack, registry, upvalues⟩) := by
  simp only [remove, List.length_cons, depth_second]
  rfl

theorem pushvalue_ok {pushed : TValue} (hindex : value index s = .ok (pushed, s))
    (hroom : s.stack.length < minStack) :
    pushvalue index s = .ok ((), { s with stack := pushed :: s.stack }) :=
  (bind_ok hindex).trans (push_ok _ hroom)

theorem ref_top (referenced : TValue) :
    ref ⟨referenced :: stack, registry, upvalues⟩ =
      .ok (registry.length, ⟨stack, registry ++ [referenced], upvalues⟩) := by
  rw [ref, bind_ok (value_top referenced), bind_ok (pop_one referenced)]

theorem rawgetref_ok {reference : Nat} {referenced : TValue}
    (h : registry[reference]? = some referenced) (hroom : stack.length < minStack) :
    rawgetref reference ⟨stack, registry, upvalues⟩ =
      .ok ((), ⟨referenced :: stack, registry, upvalues⟩) := by
  have hget : (get : Api σ (State σ)) ⟨stack, registry, upvalues⟩ =
      .ok (⟨stack, registry, upvalues⟩, ⟨stack, registry, upvalues⟩) := rfl
  rw [rawgetref, bind_ok hget]
  simp only [h, Option.getD_some]
  exact push_ok _ hroom

theorem rawlen_ok (border : Border) (hindex : value index s = .ok (.table found, s)) :
    rawlen border index s = .ok (border.length found, s) :=
  bind_ok (entries_ok hindex)

/-- The table holds the items in their order. -/
theorem fill_ok {element : α → Api σ Unit} {make : α → TValue} (items : List α) (done : List TValue)
    (helement : ∀ item before,
      element item ⟨.table before :: stack, registry, upvalues⟩ =
        .ok ((), ⟨make item :: .table before :: stack, registry, upvalues⟩)) :
    fill element done.length items
        ⟨.table (Entries.sequence done) :: stack, registry, upvalues⟩ =
      .ok ((), ⟨.table (Entries.sequence (done ++ items.map make)) :: stack, registry,
        upvalues⟩) := by
  induction items generalizing done with
  | nil => simp [fill]
  | cons item rest ih =>
      rw [fill, bind_ok (helement item _), rawseti, bind_ok (store_second _ _),
        Entries.set_sequence]
      have hrest := ih (done ++ [make item])
      rw [List.length_append, List.length_singleton, List.append_assoc] at hrest
      exact hrest

/-- From an empty table on, the loop builds the sequence of the items. -/
theorem fill_empty {element : α → Api σ Unit} {make : α → TValue} (items : List α)
    (helement : ∀ item before,
      element item ⟨.table before :: stack, registry, upvalues⟩ =
        .ok ((), ⟨make item :: .table before :: stack, registry, upvalues⟩)) :
    fill element 0 items ⟨.table [] :: stack, registry, upvalues⟩ =
      .ok ((), ⟨.table (Entries.sequence (items.map make)) :: stack, registry, upvalues⟩) :=
  fill_ok items [] helement

/-- Each entry is read where it lies, and the stack is as before. -/
theorem collect_ok {body : Api σ (List α)} {read : TValue → List α}
    (hindex : value index s = .ok (.table found, s)) (hroom : s.stack.length < minStack)
    (hbody : ∀ entry, body { s with stack := entry :: s.stack } =
      .ok (read entry, { s with stack := entry :: s.stack })) (i count : Nat) :
    collect index body i count s =
      .ok ((List.range' i count).flatMap fun j => read (found.get (.index j)), s) := by
  induction count generalizing i with
  | zero => rfl
  | succ count ih =>
      rw [collect, bind_ok (rawgeti_ok i hindex hroom), bind_ok (hbody _), bind_ok (pop_one _),
        bind_ok (ih (i + 1))]
      rfl

end Rules

end Api

/-! ## Calls -/

/-- What the functions of a state do, called with some arguments: the values
they return, or the error they raise. -/
structure Callee (sig : Signature) (σ : Type) where
  call : String → List TValue → σ → Prog sig (Except TValue (List TValue) × σ)

/-- As many results as were asked for. -/
def adjust (count : Nat) (results : List TValue) : List TValue :=
  (results ++ List.replicate count TValue.nil).take count

variable {sig : Signature}

/-- `lua_pcall`: whether the call returned.  The results replace the function
and its arguments, or the error value does. -/
def pcall (callee : Callee sig σ) (nargs nresults : Nat) (s : State σ) :
    Prog sig (Except Fault (Bool × State σ)) :=
  match s.stack[nargs]? with
  | some (.function name) => do
      let (outcome, upvalues) ← callee.call name (s.stack.take nargs).reverse s.upvalues
      let below := s.stack.drop (nargs + 1)
      match outcome with
      | .ok results =>
          if below.length + nresults ≤ minStack then
            return .ok (true, { s with
              stack := (adjust nresults results).reverse ++ below, upvalues := upvalues })
          else return .error .overflow
      | .error raised =>
          return .ok (false, { s with stack := raised :: below, upvalues := upvalues })
  | some _ =>
      -- The call of a value that is no function is an error like any other.
      return .ok (false, { s with
        stack := .string "attempt to call a non-function value" :: s.stack.drop (nargs + 1) })
  | none => return .error .underflow

theorem adjust_eq (count : Nat) (results : List TValue) :
    adjust count results = (List.range count).map fun i => results[i]?.getD .nil := by
  apply List.ext_getElem?
  intro i
  rcases Nat.lt_or_ge i count with hlt | hge
  · rw [adjust, List.getElem?_take_of_lt hlt, List.getElem?_map, List.getElem?_range hlt,
      Option.map_some]
    rcases Nat.lt_or_ge i results.length with hin | hout
    · rw [List.getElem?_append_left hin, List.getElem?_eq_getElem hin, Option.getD_some]
    · have hpadding : i - results.length < count := by omega
      rw [List.getElem?_append_right hout, List.getElem?_replicate, if_pos hpadding,
        List.getElem?_eq_none hout, Option.getD_none]
  · have hbeyond : (adjust count results).length ≤ i := by
      simp only [adjust, List.length_take]
      omega
    rw [List.getElem?_eq_none hbeyond, List.getElem?_eq_none (by simpa using hge)]

/-- A call with every argument in place, as a step of the callee. -/
theorem pcall_function (callee : Callee sig σ) (name : String) (arguments below : List TValue)
    (nresults : Nat) (registry : List TValue) (upvalues : σ)
    (hroom : below.length + nresults ≤ minStack) :
    pcall callee arguments.length nresults
        ⟨arguments.reverse ++ .function name :: below, registry, upvalues⟩ =
      (do
        let (outcome, upvalues') ← callee.call name arguments upvalues
        match outcome with
        | .ok results =>
            return .ok (true, ⟨(adjust nresults results).reverse ++ below, registry, upvalues'⟩)
        | .error raised => return .ok (false, ⟨raised :: below, registry, upvalues'⟩)) := by
  have hfunction : (arguments.reverse ++ .function name :: below)[arguments.length]? =
      some (.function name) := by
    rw [List.getElem?_append_right (by simp)]
    simp
  have htake : (arguments.reverse ++ .function name :: below).take arguments.length =
      arguments.reverse := by
    rw [← List.length_reverse, List.take_left]
  have hdrop : (arguments.reverse ++ .function name :: below).drop (arguments.length + 1) =
      below := by
    have hlength : arguments.reverse.length = arguments.length := List.length_reverse
    rw [← hlength, List.drop_append]
    simp
  simp only [pcall, hfunction, htake, hdrop, List.reverse_reverse, if_pos hroom]

/-! ## The entries of a sequence -/

/-- What a loop from 1 to the border of a sequence reads. -/
theorem flatMap_sequence (read : TValue → List α) (values : List TValue) :
    ((List.range' 1 values.length).flatMap fun j =>
      read ((Entries.sequence values).get (.index j))) = values.flatMap read := by
  induction values using List.reverseRecOn with
  | nil => rfl
  | append_singleton values last ih =>
      have hinit : ((List.range' 1 values.length).flatMap fun j =>
          read ((Entries.sequence (values ++ [last])).get (.index j))) = values.flatMap read := by
        rw [← ih]
        apply List.flatMap_congr
        intro j hj
        obtain ⟨hone, hbeyond⟩ := List.mem_range'_1.mp hj
        obtain ⟨i, rfl⟩ : ∃ i, j = i + 1 := ⟨j - 1, by omega⟩
        rw [Entries.get_sequence, Entries.get_sequence, List.getElem?_append_left (by omega)]
      rw [List.length_append, List.length_singleton, List.range'_concat, List.flatMap_append, hinit,
        List.flatMap_append, List.flatMap_singleton, List.flatMap_singleton,
        Nat.mul_comm, Nat.mul_one, Nat.add_comm 1, Entries.get_sequence]
      simp

end Lua
