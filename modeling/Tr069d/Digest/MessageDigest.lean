import Tr069d.Digest.SineTable
import Mathlib.Logic.Function.Basic
import Mathlib.Order.Nat

/-!
# The MD5 message digest

MD5 as it is specified: the message is padded to 56 bytes modulo 64 and followed by
its length in bits, and each block of sixteen words goes through four rounds of
sixteen operations `[abcd k s i]`,

```text
a = b + ((a + f(b, c, d) + X[k] + T[i]) <<< s)
```

The operations are written out one by one, and `T[i]` is the integer part of
`2 ^ 32 * |sin i|`.  Bytes make up words, and words the length and the digest,
low-order first.
-/

namespace Tr069d.MessageDigest

abbrev Byte : Type := BitVec 8

abbrev Word : Type := BitVec 32

/-! ## The message -/

theorem exists_zeros (length : ℕ) : ∃ count, (length + 1 + count) % 64 = 56 :=
  ⟨119 - length % 64, by omega⟩

/-- How many zero bytes follow the one with the first bit: as few as possible. -/
def zeros (length : ℕ) : ℕ :=
  Nat.find (exists_zeros length)

/-- The bytes of a word, low-order first. -/
def wordBytes (word : Word) : List Byte :=
  (List.range 4).map fun i => word.extractLsb' (8 * i) 8

/-- A length in bits as two words, of which the first is the low-order one. -/
def lengthBytes (bits : ℕ) : List Byte :=
  wordBytes (BitVec.ofNat 32 bits) ++ wordBytes (BitVec.ofNat 32 (bits / 2 ^ 32))

def padded (message : List Byte) : List Byte :=
  message ++ [0x80] ++ List.replicate (zeros message.length) 0 ++ lengthBytes (8 * message.length)

/-- The word `M[j]` of a padded message. -/
def wordOf (message : List Byte) (j : ℕ) : Word :=
  message.getD (4 * j + 3) 0 ++ message.getD (4 * j + 2) 0 ++ message.getD (4 * j + 1) 0 ++
    message.getD (4 * j) 0

/-! ## The rounds -/

def f (x y z : Word) : Word := x &&& y ||| ~~~x &&& z

def g (x y z : Word) : Word := x &&& z ||| y &&& ~~~z

def h (x y z : Word) : Word := x ^^^ y ^^^ z

def i (x y z : Word) : Word := y ^^^ (x ||| ~~~z)

/-- `T[i]` -/
noncomputable def sineWord (i : ℕ) : Word :=
  BitVec.ofNat 32 (SineTable.sine i)

inductive Register
  | a
  | b
  | c
  | d
  deriving DecidableEq, Repr

/-- The register that comes next in the order of the operations. -/
def Register.next : Register → Register
  | .a => .b
  | .b => .c
  | .c => .d
  | .d => .a

abbrev Registers : Type := Register → Word

/-- `[abcd k s i]`, for the register in the place of `a`. -/
structure Operation where
  target : Register
  k : ℕ
  s : ℕ
  i : ℕ
  deriving DecidableEq, Repr

noncomputable def perform (round : Word → Word → Word → Word) (x : ℕ → Word)
    (registers : Registers) (operation : Operation) : Registers :=
  let first := operation.target
  let second := first.next
  let third := second.next
  let fourth := third.next
  Function.update registers first (registers second +
    (registers first + round (registers second) (registers third) (registers fourth) +
      x operation.k + sineWord operation.i).rotateLeft operation.s)

def round1 : List Operation :=
  [⟨.a, 0, 7, 1⟩, ⟨.d, 1, 12, 2⟩, ⟨.c, 2, 17, 3⟩, ⟨.b, 3, 22, 4⟩,
   ⟨.a, 4, 7, 5⟩, ⟨.d, 5, 12, 6⟩, ⟨.c, 6, 17, 7⟩, ⟨.b, 7, 22, 8⟩,
   ⟨.a, 8, 7, 9⟩, ⟨.d, 9, 12, 10⟩, ⟨.c, 10, 17, 11⟩, ⟨.b, 11, 22, 12⟩,
   ⟨.a, 12, 7, 13⟩, ⟨.d, 13, 12, 14⟩, ⟨.c, 14, 17, 15⟩, ⟨.b, 15, 22, 16⟩]

def round2 : List Operation :=
  [⟨.a, 1, 5, 17⟩, ⟨.d, 6, 9, 18⟩, ⟨.c, 11, 14, 19⟩, ⟨.b, 0, 20, 20⟩,
   ⟨.a, 5, 5, 21⟩, ⟨.d, 10, 9, 22⟩, ⟨.c, 15, 14, 23⟩, ⟨.b, 4, 20, 24⟩,
   ⟨.a, 9, 5, 25⟩, ⟨.d, 14, 9, 26⟩, ⟨.c, 3, 14, 27⟩, ⟨.b, 8, 20, 28⟩,
   ⟨.a, 13, 5, 29⟩, ⟨.d, 2, 9, 30⟩, ⟨.c, 7, 14, 31⟩, ⟨.b, 12, 20, 32⟩]

def round3 : List Operation :=
  [⟨.a, 5, 4, 33⟩, ⟨.d, 8, 11, 34⟩, ⟨.c, 11, 16, 35⟩, ⟨.b, 14, 23, 36⟩,
   ⟨.a, 1, 4, 37⟩, ⟨.d, 4, 11, 38⟩, ⟨.c, 7, 16, 39⟩, ⟨.b, 10, 23, 40⟩,
   ⟨.a, 13, 4, 41⟩, ⟨.d, 0, 11, 42⟩, ⟨.c, 3, 16, 43⟩, ⟨.b, 6, 23, 44⟩,
   ⟨.a, 9, 4, 45⟩, ⟨.d, 12, 11, 46⟩, ⟨.c, 15, 16, 47⟩, ⟨.b, 2, 23, 48⟩]

def round4 : List Operation :=
  [⟨.a, 0, 6, 49⟩, ⟨.d, 7, 10, 50⟩, ⟨.c, 14, 15, 51⟩, ⟨.b, 5, 21, 52⟩,
   ⟨.a, 12, 6, 53⟩, ⟨.d, 3, 10, 54⟩, ⟨.c, 10, 15, 55⟩, ⟨.b, 1, 21, 56⟩,
   ⟨.a, 8, 6, 57⟩, ⟨.d, 15, 10, 58⟩, ⟨.c, 6, 15, 59⟩, ⟨.b, 13, 21, 60⟩,
   ⟨.a, 4, 6, 61⟩, ⟨.d, 11, 10, 62⟩, ⟨.c, 2, 15, 63⟩, ⟨.b, 9, 21, 64⟩]

/-- A block of sixteen words. -/
noncomputable def processBlock (x : ℕ → Word) (registers : Registers) : Registers :=
  let after := round4.foldl (perform i x) <| round3.foldl (perform h x) <|
    round2.foldl (perform g x) <| round1.foldl (perform f x) registers
  fun register => registers register + after register

def initial : Registers
  | .a => 0x67452301
  | .b => 0xefcdab89
  | .c => 0x98badcfe
  | .d => 0x10325476

/-! ## The digest -/

/-- The registers after the first `blocks` blocks of a padded message. -/
noncomputable def process (message : List Byte) (blocks : ℕ) : Registers :=
  (List.range blocks).foldl
    (fun registers i => processBlock (fun j => wordOf message (16 * i + j)) registers) initial

noncomputable def digest (message : List Byte) : List Byte :=
  let registers := process (padded message) ((padded message).length / 64)
  [Register.a, .b, .c, .d].flatMap fun register => wordBytes (registers register)

/-- Two lower-case hexadecimal digits for each byte. -/
def hex (bytes : List Byte) : List Char :=
  bytes.flatMap fun byte =>
    ["0123456789abcdef".toList.getD (byte.toNat / 16) '0',
     "0123456789abcdef".toList.getD (byte.toNat % 16) '0']

end Tr069d.MessageDigest
