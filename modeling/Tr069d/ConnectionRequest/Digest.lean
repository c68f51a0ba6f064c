import Tr069d.ConnectionRequest.Md5
import Tr069d.Digest.MessageDigest

/-!
# `md5Hex` is MD5

The four rounds are one loop in `Md5.cpp`: the words are renamed after each step
instead of the registers taking turns, and the index of the message word is
computed.  A step does what the operation of its round does (`Turned.step`), and
so the loop what the rounds do.  The constants are the sines (`sineWord_succ`).

The source is written down once more with its loops, and with accesses to arrays
and shifts that may fail; none does (`checkedMd5Hex_eq`).  Together this is
`md5Hex_spec`.
-/

namespace Tr069d.Md5

open MessageDigest (Byte Word Register Registers Operation)

/-! ## The steps -/

/-- The function of the words in step `i`. -/
def mixed (s : Chain) (i : ℕ) : BitVec 32 :=
  if i < 16 then (s.b &&& s.c) ||| (~~~s.b &&& s.d)
  else if i < 32 then (s.d &&& s.b) ||| (~~~s.d &&& s.c)
  else if i < 48 then s.b ^^^ s.c ^^^ s.d
  else s.c ^^^ (s.b ||| ~~~s.d)

/-- The message word of step `i`. -/
def messageIndex (i : ℕ) : ℕ :=
  if i < 16 then i
  else if i < 32 then (5 * i + 1) % 16
  else if i < 48 then (3 * i + 5) % 16
  else (7 * i) % 16

theorem messageIndex_lt (i : ℕ) : messageIndex i < 16 := by
  unfold messageIndex
  split_ifs <;> omega

theorem step_eq (words : List (BitVec 32)) (s : Chain) (i : ℕ) :
    step words s i =
      { a := s.d
        b := s.b + leftRotate (s.a + mixed s i + constants.getD i 0 +
          words.getD (messageIndex i) 0) (shifts.getD i 0)
        c := s.b
        d := s.c } := by
  unfold step mixed messageIndex
  split_ifs <;> rfl

/-- The register that the operation of step `i` changes. -/
def target (i : ℕ) : Register :=
  match i % 4 with
  | 0 => .a
  | 1 => .d
  | 2 => .c
  | _ => .b

def operation (i : ℕ) : Operation :=
  ⟨target i, messageIndex i, shifts.getD i 0, i + 1⟩

theorem target_succ (i : ℕ) : target (i + 1) = (target i).next.next.next := by
  have hcases : i % 4 = 0 ∨ i % 4 = 1 ∨ i % 4 = 2 ∨ i % 4 = 3 := by omega
  unfold target
  rw [Nat.add_mod i 1]
  rcases hcases with h | h | h | h <;> rw [h] <;> rfl

theorem round1_eq : MessageDigest.round1 = (List.range' 0 16).map operation := by decide

theorem round2_eq : MessageDigest.round2 = (List.range' 16 16).map operation := by decide

theorem round3_eq : MessageDigest.round3 = (List.range' 32 16).map operation := by decide

theorem round4_eq : MessageDigest.round4 = (List.range' 48 16).map operation := by decide

theorem computed_eq_constants : ∀ i : Fin 64,
    BitVec.ofNat 32 (SineTable.computed (i + 1)) = constants.getD i 0 := by
  decide +kernel

theorem sineWord_succ {i : ℕ} (hi : i < 64) :
    MessageDigest.sineWord (i + 1) = constants.getD i 0 := by
  rw [MessageDigest.sineWord, SineTable.sine_succ hi]
  exact computed_eq_constants ⟨i, hi⟩

theorem shifts_bounds : ∀ i : Fin 64, 0 < shifts.getD i 0 ∧ shifts.getD i 0 < 32 := by
  decide

theorem leftRotate_eq {value : BitVec 32} {bits : ℕ} (h : bits < 32) :
    leftRotate value bits = value.rotateLeft bits := by
  rw [leftRotate, BitVec.rotateLeft_def, Nat.mod_eq_of_lt h]

/-! ## The loop and the rounds -/

/-- The words are the registers, in the order of the operation that changes `first`. -/
structure Turned (first : Register) (s : Chain) (registers : Registers) : Prop where
  a : s.a = registers first
  b : s.b = registers first.next
  c : s.c = registers first.next.next
  d : s.d = registers first.next.next.next

/-- The words of a chain, in the registers. -/
def Chain.registers (s : Chain) : Registers
  | .a => s.a
  | .b => s.b
  | .c => s.c
  | .d => s.d

theorem turned_registers (s : Chain) : Turned .a s s.registers :=
  ⟨rfl, rfl, rfl, rfl⟩

theorem Turned.eq_registers {s : Chain} {registers : Registers} (h : Turned .a s registers) :
    s.registers = registers := by
  funext register
  cases register
  exacts [h.a, h.b, h.c, h.d]

theorem range_eq_rounds : List.range 64 = List.range' 0 16 ++ List.range' 16 16 ++
    List.range' 32 16 ++ List.range' 48 16 := by decide

section Rounds

variable {words : List (BitVec 32)} {x : ℕ → Word} (hwords : ∀ j < 16, words.getD j 0 = x j)
include hwords

theorem Turned.step {s : Chain} {registers : Registers} {i : ℕ} (hi : i < 64)
    (h : Turned (target i) s registers) {round : Word → Word → Word → Word}
    (hround : mixed s i = round s.b s.c s.d) :
    Turned (target (i + 1)) (step words s i)
      (MessageDigest.perform round x registers (operation i)) := by
  have hshift := (shifts_bounds ⟨i, hi⟩).2
  have hsum : ∀ x constant word : BitVec 32, x + constant + word = x + word + constant := by
    intro x constant word
    ac_rfl
  rw [step_eq, hsum, hround, leftRotate_eq hshift, target_succ, h.a, h.b, h.c, h.d,
    ← sineWord_succ hi, hwords _ (messageIndex_lt i)]
  unfold MessageDigest.perform operation
  generalize target i = first
  constructor <;> cases first <;> simp [Register.next]

theorem Turned.steps {round : Word → Word → Word → Word} (start count : ℕ)
    (hend : start + count ≤ 64)
    (hround : ∀ i, start ≤ i → i < start + count → ∀ s, mixed s i = round s.b s.c s.d)
    {s : Chain} {registers : Registers} (h : Turned (target start) s registers) :
    Turned (target (start + count)) ((List.range' start count).foldl (Md5.step words) s)
      (((List.range' start count).map operation).foldl
        (MessageDigest.perform round x) registers) := by
  induction count generalizing start s registers with
  | zero => exact h
  | succ count ih =>
      rw [List.range'_succ, List.map_cons, List.foldl_cons, List.foldl_cons,
        show start + (count + 1) = start + 1 + count by omega]
      refine ih _ (by omega) (fun i hlow hhigh => hround i (by omega) (by omega)) ?_
      exact h.step hwords (by omega) (hround start (by omega) (by omega) s)

/-- The steps do what the four rounds do. -/
theorem turned_steps (s : Chain) :
    Turned .a ((List.range 64).foldl (step words) s)
      (MessageDigest.round4.foldl (MessageDigest.perform MessageDigest.i x) <|
        MessageDigest.round3.foldl (MessageDigest.perform MessageDigest.h x) <|
          MessageDigest.round2.foldl (MessageDigest.perform MessageDigest.g x) <|
            MessageDigest.round1.foldl (MessageDigest.perform MessageDigest.f x) s.registers) := by
  rw [range_eq_rounds, List.foldl_append, List.foldl_append, List.foldl_append, round1_eq,
    round2_eq, round3_eq, round4_eq]
  refine Turned.steps hwords 48 16 (by decide) ?_ <|
    Turned.steps hwords 32 16 (by decide) ?_ <|
    Turned.steps hwords 16 16 (by decide) ?_ <|
    Turned.steps hwords 0 16 (by decide) ?_ (turned_registers s)
  · intro i hlow _ s
    rw [mixed, if_neg (by omega), if_neg (by omega), if_neg (by omega)]
    rfl
  · intro i hlow hhigh s
    rw [mixed, if_neg (by omega), if_neg (by omega), if_pos hhigh]
    rfl
  · intro i hlow hhigh s
    rw [mixed, if_neg (by omega), if_pos hhigh, MessageDigest.g, BitVec.and_comm s.d,
      BitVec.and_comm (~~~s.d)]
  · intro i _ hhigh s
    rw [mixed, if_pos hhigh]
    rfl

end Rounds

/-! ## The blocks -/

/-- Bytes that are shifted to their places make up the word of these bytes. -/
theorem or_shifts_eq (b0 b1 b2 b3 : BitVec 8) :
    b0.setWidth 32 ||| (b1.setWidth 32 <<< 8) ||| (b2.setWidth 32 <<< 16) |||
      (b3.setWidth 32 <<< 24) = b3 ++ b2 ++ b1 ++ b0 := by
  have hhigh : ∀ {byte : BitVec 8} {k : ℕ}, 8 ≤ k → byte.getLsbD k = false :=
    fun h => BitVec.getLsbD_of_ge _ _ h
  apply BitVec.eq_of_getLsbD_eq
  intro k hk
  rw [BitVec.getLsbD_append, BitVec.getLsbD_append, BitVec.getLsbD_append, Nat.sub_sub,
    Nat.sub_sub]
  by_cases h8 : k < 8
  · simp [h8, hk, show k < 16 by omega, show k < 24 by omega]
  by_cases h16 : k < 16
  · simp [h8, hk, h16, show k < 24 by omega, show k - 8 < 8 by omega, hhigh (show 8 ≤ k by omega)]
  by_cases h24 : k < 24
  · simp [h8, hk, h16, h24, hhigh (show 8 ≤ k by omega), hhigh (show 8 ≤ k - 8 by omega),
      show ¬k - 8 < 8 by omega, show k - 16 < 8 by omega]
  · simp [h8, hk, h16, h24, hhigh (show 8 ≤ k by omega), hhigh (show 8 ≤ k - 8 by omega),
      hhigh (show 8 ≤ k - 16 by omega), show ¬k - 8 < 8 by omega, show ¬k - 16 < 8 by omega]

theorem wordAt_eq (data : List (BitVec 8)) (j : ℕ) :
    wordAt data (4 * j) = MessageDigest.wordOf data j :=
  or_shifts_eq ..

theorem words_eq (data : List (BitVec 8)) (i : ℕ) : ∀ j < 16,
    ((List.range 16).map fun k => wordAt data (i * 64 + k * 4)).getD j 0 =
      MessageDigest.wordOf data (16 * i + j) := by
  intro j hj
  rw [← wordAt_eq]
  simp [hj, show i * 64 + j * 4 = 4 * (16 * i + j) by omega]

theorem block_eq (data : List (BitVec 8)) (s : Chain) (i : ℕ) :
    (block data s (i * 64)).registers =
      MessageDigest.processBlock (fun j => MessageDigest.wordOf data (16 * i + j)) s.registers := by
  have hsteps := (turned_steps (words_eq data i) s).eq_registers
  funext register
  rw [MessageDigest.processBlock, ← hsteps]
  cases register <;> rfl

theorem blocks_eq (data : List (BitVec 8)) (count : ℕ) :
    ((List.range count).foldl (fun s k => block data s (k * 64)) initial).registers =
      MessageDigest.process data count := by
  unfold MessageDigest.process
  induction count with
  | zero =>
      funext register
      cases register <;> rfl
  | succ count ih =>
      rw [List.range_succ, List.foldl_append, List.foldl_append, ← ih]
      exact block_eq data _ count

/-! ## Padding -/

theorem zeros_eq (length : ℕ) : MessageDigest.zeros length = (119 - length % 64) % 64 := by
  rw [MessageDigest.zeros, Nat.find_eq_iff]
  refine ⟨by omega, fun count hcount => by omega⟩

/-- A text with these bytes. -/
def textOf (bytes : List Byte) : List Char :=
  bytes.map fun byte => Char.ofNat byte.toNat

theorem bytes_textOf (bytes : List Byte) :
    (textOf bytes).map (fun c => BitVec.ofNat 8 c.toNat) = bytes := by
  rw [textOf, List.map_map]
  conv_rhs => rw [← List.map_id bytes]
  refine List.map_congr_left fun byte _ => ?_
  have hvalid : byte.toNat.isValidChar := Or.inl (by omega)
  have hbyte : (Char.ofNat byte.toNat).toNat = byte.toNat := by
    rw [Char.ofNat, dif_pos hvalid]
    rfl
  rw [Function.comp_apply, hbyte]
  exact BitVec.eq_of_toNat_eq (by simp)

theorem lengthBytes_eq (length : ℕ) :
    (List.range 8).map (fun i => (BitVec.ofNat 64 (length * 8) >>> (8 * i)).setWidth 8) =
      MessageDigest.lengthBytes (8 * length) := by
  rw [Nat.mul_comm length]
  generalize 8 * length = bits
  rw [show List.range 8 = List.range 4 ++ (List.range 4).map (· + 4) by decide, List.map_append,
    List.map_map]
  simp only [Function.comp_def]
  -- the low-order word, then the other one
  refine congrArg₂ (· ++ ·) (List.map_congr_left fun i hi => ?_)
    (List.map_congr_left fun i hi => ?_)
  all_goals
    have hi := List.mem_range.mp hi
    apply BitVec.eq_of_getLsbD_eq
    intro k hk
    rw [BitVec.getLsbD_setWidth, BitVec.getLsbD_ushiftRight, BitVec.getLsbD_ofNat,
      BitVec.getLsbD_extractLsb', BitVec.getLsbD_ofNat]
  · simp [show 8 * i + k < 64 by omega, show 8 * i + k < 32 by omega]
  · rw [Nat.testBit_div_two_pow, show 8 * (i + 4) + k = 8 * i + k + 32 by omega]
    simp [show 8 * i + k + 32 < 64 by omega, show 8 * i + k < 32 by omega]

theorem padded_textOf (bytes : List Byte) : padded (textOf bytes) = MessageDigest.padded bytes := by
  simp only [padded, MessageDigest.padded, bytes_textOf, zeros_eq, lengthBytes_eq]

/-! ## Hexadecimal digits -/

theorem hexDigit_eq : ∀ n : Fin 16,
    hexDigit n = "0123456789abcdef".toList.getD n '0' := by
  decide

theorem hexWord_eq (word : BitVec 32) :
    hexWord word = MessageDigest.hex (MessageDigest.wordBytes word) := by
  simp only [hexWord, MessageDigest.hex, MessageDigest.wordBytes, List.flatMap_map]
  refine congrArg (List.flatMap · _) (funext fun i => ?_)
  rw [hexByte, BitVec.extractLsb'_toNat, BitVec.toNat_ushiftRight]
  generalize word.toNat >>> (8 * i) = n
  exact congrArg₂ (fun high low => [high, low]) (hexDigit_eq ⟨n % 2 ^ 8 / 16, by omega⟩)
    (hexDigit_eq ⟨n % 2 ^ 8 % 16, by omega⟩)

/-- The result is the digest of the bytes, in hexadecimal digits. -/
theorem md5Hex_textOf (bytes : List Byte) :
    md5Hex (textOf bytes) = MessageDigest.hex (MessageDigest.digest bytes) := by
  have hblocks := blocks_eq (MessageDigest.padded bytes) ((MessageDigest.padded bytes).length / 64)
  unfold md5Hex MessageDigest.digest
  simp only [padded_textOf, ← hblocks]
  simp [MessageDigest.hex, hexWord_eq, Chain.registers]

/-! ## The source with its loops -/

/-- `while ((data.size() % 64) != 56) data.push_back(0);` -/
def pushZeros (data : List (BitVec 8)) : List (BitVec 8) :=
  if data.length % 64 = 56 then data else pushZeros (data ++ [0])
termination_by (120 - data.length % 64) % 64
decreasing_by
  rw [List.length_append, List.length_singleton]
  omega

theorem pushZeros_eq (data : List (BitVec 8)) :
    pushZeros data = data ++ List.replicate ((120 - data.length % 64) % 64) 0 := by
  fun_induction pushZeros data with
  | case1 data hlength => simp [hlength]
  | case2 data hlength ih =>
      rw [ih, List.length_append, List.length_singleton, List.append_assoc]
      have hcount : (120 - data.length % 64) % 64 =
          (120 - (data.length + 1) % 64) % 64 + 1 := by omega
      rw [hcount, List.replicate_succ]
      rfl

/-- `leftRotate`, whose shifts have to lie strictly between 0 and the width. -/
def checkedRotate (value : BitVec 32) (bits : ℕ) : Option (BitVec 32) :=
  if 0 < bits ∧ bits < 32 then some (leftRotate value bits) else none

def checkedStep (words : List (BitVec 32)) (s : Chain) (i : ℕ) : Option Chain := do
  let (f, g) :=
    if i < 16 then ((s.b &&& s.c) ||| (~~~s.b &&& s.d), i)
    else if i < 32 then ((s.d &&& s.b) ||| (~~~s.d &&& s.c), (5 * i + 1) % 16)
    else if i < 48 then (s.b ^^^ s.c ^^^ s.d, (3 * i + 5) % 16)
    else (s.c ^^^ (s.b ||| ~~~s.d), (7 * i) % 16)
  let constant ← constants[i]?
  let word ← words[g]?
  let shift ← shifts[i]?
  let rotated ← checkedRotate (s.a + f + constant + word) shift
  return { a := s.d, b := s.b + rotated, c := s.b, d := s.c }

def checkedWord (data : List (BitVec 8)) (offset : ℕ) : Option (BitVec 32) := do
  let b0 ← data[offset]?
  let b1 ← data[offset + 1]?
  let b2 ← data[offset + 2]?
  let b3 ← data[offset + 3]?
  return b0.setWidth 32 ||| (b1.setWidth 32 <<< 8) ||| (b2.setWidth 32 <<< 16) |||
    (b3.setWidth 32 <<< 24)

/-- `for (size_t offset = 0; offset < data.size(); offset += 64)` -/
def checkedBlocks (data : List (BitVec 8)) (offset : ℕ) (s : Chain) : Option Chain :=
  if offset < data.length then do
    let words ← (List.range 16).mapM fun i => checkedWord data (offset + i * 4)
    let t ← (List.range 64).foldlM (checkedStep words) s
    checkedBlocks data (offset + 64) ⟨s.a + t.a, s.b + t.b, s.c + t.c, s.d + t.d⟩
  else some s
termination_by data.length - offset

/-- `md5Hex`, which fails where an index or a shift is out of range. -/
def checkedMd5Hex (input : List (BitVec 8)) : Option (List Char) := do
  let bitLength := BitVec.ofNat 64 input.length * 8
  let data := pushZeros (input ++ [0x80]) ++
    (List.range 8).map fun i => (bitLength >>> (8 * i)).setWidth 8
  let s ← checkedBlocks data 0 initial
  return [s.a, s.b, s.c, s.d].flatMap hexWord

/-! ## Nothing is out of range -/

theorem getElem?_eq_some_getD {α : Type} {items : List α} {i : ℕ} (h : i < items.length)
    (default : α) : items[i]? = some (items.getD i default) := by
  simp [h]

theorem checkedStep_eq {words : List (BitVec 32)} (hwords : words.length = 16) (s : Chain) {i : ℕ}
    (hi : i < 64) : checkedStep words s i = some (step words s i) := by
  have hchosen : (if i < 16 then ((s.b &&& s.c) ||| (~~~s.b &&& s.d), i)
      else if i < 32 then ((s.d &&& s.b) ||| (~~~s.d &&& s.c), (5 * i + 1) % 16)
      else if i < 48 then (s.b ^^^ s.c ^^^ s.d, (3 * i + 5) % 16)
      else (s.c ^^^ (s.b ||| ~~~s.d), (7 * i) % 16)) = (mixed s i, messageIndex i) := by
    unfold mixed messageIndex
    split_ifs <;> rfl
  have hconstant : constants[i]? = some (constants.getD i 0) := getElem?_eq_some_getD hi 0
  have hword : words[messageIndex i]? = some (words.getD (messageIndex i) 0) :=
    getElem?_eq_some_getD (hwords ▸ messageIndex_lt i) 0
  have hshift : shifts[i]? = some (shifts.getD i 0) := getElem?_eq_some_getD hi 0
  have hrotated : checkedRotate (s.a + mixed s i + constants.getD i 0 +
      words.getD (messageIndex i) 0) (shifts.getD i 0) = some _ := if_pos (shifts_bounds ⟨i, hi⟩)
  rw [step_eq, checkedStep, hchosen]
  simp only [hconstant, hword, hshift, Option.bind_eq_bind, Option.bind_some, hrotated]
  rfl

theorem checkedWord_eq {data : List (BitVec 8)} {offset : ℕ} (h : offset + 3 < data.length) :
    checkedWord data offset = some (wordAt data offset) := by
  unfold checkedWord wordAt
  rw [getElem?_eq_some_getD (show offset < data.length by omega) 0,
    getElem?_eq_some_getD (show offset + 1 < data.length by omega) 0,
    getElem?_eq_some_getD (show offset + 2 < data.length by omega) 0,
    getElem?_eq_some_getD h 0]
  rfl

theorem mapM_eq_some {α β : Type} {items : List α} {f : α → Option β} {g : α → β}
    (h : ∀ item ∈ items, f item = some (g item)) : items.mapM f = some (items.map g) := by
  induction items with
  | nil => rfl
  | cons item items ih =>
      rw [List.mapM_cons, h item List.mem_cons_self, ih fun i hi => h i (List.mem_cons_of_mem _ hi)]
      rfl

theorem foldlM_eq_some {α β : Type} {items : List α} {f : β → α → Option β} {g : β → α → β}
    (h : ∀ state, ∀ item ∈ items, f state item = some (g state item)) (state : β) :
    items.foldlM f state = some (items.foldl g state) := by
  induction items generalizing state with
  | nil => rfl
  | cons item items ih =>
      rw [List.foldlM_cons, h state item List.mem_cons_self]
      exact ih (fun state i hi => h state i (List.mem_cons_of_mem _ hi)) _

theorem checkedBlocks_eq {data : List (BitVec 8)} {count : ℕ} (hlength : data.length = 64 * count)
    (k : ℕ) (s : Chain) :
    checkedBlocks data (k * 64) s =
      some ((List.range' k (count - k)).foldl (fun s k => block data s (k * 64)) s) := by
  induction hleft : count - k generalizing k s with
  | zero =>
      rw [checkedBlocks, if_neg (by omega)]
      rfl
  | succ left ih =>
      have hwords : ((List.range 16).mapM fun i => checkedWord data (k * 64 + i * 4)) =
          some ((List.range 16).map fun i => wordAt data (k * 64 + i * 4)) :=
        mapM_eq_some fun i hi => checkedWord_eq (by have := List.mem_range.mp hi; omega)
      have hsteps : ∀ s, (List.range 64).foldlM (checkedStep ((List.range 16).map fun i =>
          wordAt data (k * 64 + i * 4))) s = some ((List.range 64).foldl (step ((List.range 16).map
            fun i => wordAt data (k * 64 + i * 4))) s) :=
        foldlM_eq_some fun s i hi => checkedStep_eq (by simp) s (List.mem_range.mp hi)
      rw [checkedBlocks, if_pos (by omega), hwords, List.range'_succ, List.foldl_cons,
        ← ih (k + 1) _ (by omega)]
      simp only [Option.bind_eq_bind, Option.bind_some, hsteps, Nat.succ_mul]
      rfl

/-- The source fails nowhere. -/
theorem checkedMd5Hex_eq (bytes : List Byte) :
    checkedMd5Hex bytes = some (md5Hex (textOf bytes)) := by
  have hdata : pushZeros (bytes ++ [0x80]) ++ (List.range 8).map (fun i =>
      ((BitVec.ofNat 64 bytes.length * 8) >>> (8 * i)).setWidth 8) = padded (textOf bytes) := by
    have hcount : (120 - (bytes.length + 1) % 64) % 64 = (119 - bytes.length % 64) % 64 := by omega
    simp only [padded, bytes_textOf, pushZeros_eq, List.length_append, List.length_singleton,
      hcount, BitVec.ofNat_mul]
    rfl
  have hlength : (padded (textOf bytes)).length = 64 * ((padded (textOf bytes)).length / 64) := by
    have := length_padded (textOf bytes)
    omega
  have hblocks := checkedBlocks_eq hlength 0 initial
  rw [Nat.zero_mul, Nat.sub_zero, ← List.range_eq_range'] at hblocks
  unfold checkedMd5Hex md5Hex
  simp only [hdata, hblocks]
  rfl

/-- `md5Hex` returns the MD5 digest of every byte string in 32 hexadecimal digits,
and the source computes it without leaving an array or shifting too far. -/
theorem md5Hex_spec (bytes : List Byte) :
    checkedMd5Hex bytes = some (MessageDigest.hex (MessageDigest.digest bytes)) ∧
      md5Hex (textOf bytes) = MessageDigest.hex (MessageDigest.digest bytes) ∧
      IsDigest (md5Hex (textOf bytes)) ∧ 64 ∣ (padded (textOf bytes)).length :=
  ⟨(checkedMd5Hex_eq bytes).trans (congrArg some (md5Hex_textOf bytes)), md5Hex_textOf bytes,
    isDigest_md5Hex _, Nat.dvd_of_mod_eq_zero (length_padded _)⟩

end Tr069d.Md5
