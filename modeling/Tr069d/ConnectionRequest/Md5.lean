import Mathlib.Data.List.Basic

/-!
# MD5

`md5Hex` as the daemon computes it. A text is the list of its bytes, each
written as the character of that number. What the server relies on is the shape
of a digest: 32 lower-case hexadecimal digits (`isDigest_md5Hex`).

The loop is the one of the source, over the tables of the rotations and of the
constants.  That it computes the digest of the standard is shown in the module on the
message digest, and that the constants are sines in the one on their table.
-/

namespace Tr069d

namespace Md5

def shifts : List Nat :=
  [7, 12, 17, 22, 7, 12, 17, 22, 7, 12, 17, 22, 7, 12, 17, 22,
   5, 9, 14, 20, 5, 9, 14, 20, 5, 9, 14, 20, 5, 9, 14, 20,
   4, 11, 16, 23, 4, 11, 16, 23, 4, 11, 16, 23, 4, 11, 16, 23,
   6, 10, 15, 21, 6, 10, 15, 21, 6, 10, 15, 21, 6, 10, 15, 21]

def constants : List (BitVec 32) :=
  [0xd76aa478, 0xe8c7b756, 0x242070db, 0xc1bdceee, 0xf57c0faf, 0x4787c62a, 0xa8304613, 0xfd469501,
   0x698098d8, 0x8b44f7af, 0xffff5bb1, 0x895cd7be, 0x6b901122, 0xfd987193, 0xa679438e, 0x49b40821,
   0xf61e2562, 0xc040b340, 0x265e5a51, 0xe9b6c7aa, 0xd62f105d, 0x02441453, 0xd8a1e681, 0xe7d3fbc8,
   0x21e1cde6, 0xc33707d6, 0xf4d50d87, 0x455a14ed, 0xa9e3e905, 0xfcefa3f8, 0x676f02d9, 0x8d2a4c8a,
   0xfffa3942, 0x8771f681, 0x6d9d6122, 0xfde5380c, 0xa4beea44, 0x4bdecfa9, 0xf6bb4b60, 0xbebfbc70,
   0x289b7ec6, 0xeaa127fa, 0xd4ef3085, 0x04881d05, 0xd9d4d039, 0xe6db99e5, 0x1fa27cf8, 0xc4ac5665,
   0xf4292244, 0x432aff97, 0xab9423a7, 0xfc93a039, 0x655b59c3, 0x8f0ccc92, 0xffeff47d, 0x85845dd1,
   0x6fa87e4f, 0xfe2ce6e0, 0xa3014314, 0x4e0811a1, 0xf7537e82, 0xbd3af235, 0x2ad7d2bb, 0xeb86d391]

def leftRotate (value : BitVec 32) (bits : Nat) : BitVec 32 :=
  (value <<< bits) ||| (value >>> (32 - bits))

/-- The four chained words. -/
structure Chain where
  a : BitVec 32
  b : BitVec 32
  c : BitVec 32
  d : BitVec 32

def initial : Chain :=
  ⟨0x67452301, 0xefcdab89, 0x98badcfe, 0x10325476⟩

/-- One of the 64 steps over a block: `f` and `g`, and the rotated words. -/
def step (words : List (BitVec 32)) (s : Chain) (i : Nat) : Chain :=
  let (f, g) :=
    if i < 16 then ((s.b &&& s.c) ||| (~~~s.b &&& s.d), i)
    else if i < 32 then ((s.d &&& s.b) ||| (~~~s.d &&& s.c), (5 * i + 1) % 16)
    else if i < 48 then (s.b ^^^ s.c ^^^ s.d, (3 * i + 5) % 16)
    else (s.c ^^^ (s.b ||| ~~~s.d), (7 * i) % 16)
  { a := s.d
    b := s.b + leftRotate (s.a + f + constants.getD i 0 + words.getD g 0) (shifts.getD i 0)
    c := s.b
    d := s.c }

/-- The little-endian word at an offset. -/
def wordAt (data : List (BitVec 8)) (offset : Nat) : BitVec 32 :=
  (data.getD offset 0).setWidth 32 ||| ((data.getD (offset + 1) 0).setWidth 32 <<< 8) |||
    ((data.getD (offset + 2) 0).setWidth 32 <<< 16) |||
    ((data.getD (offset + 3) 0).setWidth 32 <<< 24)

/-- The block at an offset, added to the chain. -/
def block (data : List (BitVec 8)) (s : Chain) (offset : Nat) : Chain :=
  let words := (List.range 16).map fun i => wordAt data (offset + i * 4)
  let t := (List.range 64).foldl (step words) s
  ⟨s.a + t.a, s.b + t.b, s.c + t.c, s.d + t.d⟩

/-- The bytes of the text, `0x80`, zeros up to 56 modulo 64, and the length in
bits. -/
def padded (input : List Char) : List (BitVec 8) :=
  let data := input.map fun c => BitVec.ofNat 8 c.toNat
  let bitLength := BitVec.ofNat 64 (data.length * 8)
  data ++ [(0x80 : BitVec 8)] ++ List.replicate ((119 - data.length % 64) % 64) (0 : BitVec 8) ++
    (List.range 8).map fun i => (bitLength >>> (8 * i)).setWidth 8

def hexDigit (n : Nat) : Char :=
  if n < 10 then Char.ofNat ('0'.toNat + n) else Char.ofNat ('a'.toNat + (n - 10))

/-- A byte under `std::hex` with `setw(2)` and fill `0`. -/
def hexByte (n : Nat) : List Char :=
  [hexDigit (n / 16), hexDigit (n % 16)]

/-- The four bytes of a word, lowest first. -/
def hexWord (word : BitVec 32) : List Char :=
  (List.range 4).flatMap fun i => hexByte ((word >>> (8 * i)).toNat % 256)

end Md5

open Md5 in
def md5Hex (input : List Char) : List Char :=
  let data := padded input
  let s := (List.range (data.length / 64)).foldl (fun s k => block data s (k * 64)) initial
  [s.a, s.b, s.c, s.d].flatMap hexWord

/-- The padded text is whole blocks. -/
theorem Md5.length_padded (input : List Char) : (padded input).length % 64 = 0 := by
  simp only [padded, List.length_append, List.length_map, List.length_replicate, List.length_range,
    List.length_cons, List.length_nil]
  omega

/-- Lower-case hexadecimal. -/
def isHexDigit (c : Char) : Bool :=
  c.isDigit || ('a' ≤ c && c ≤ 'f')

/-- The shape of a digest: 32 hexadecimal digits. -/
def IsDigest (text : List Char) : Prop :=
  text.length = 32 ∧ ∀ c ∈ text, isHexDigit c

theorem Md5.isHexDigit_hexDigit {n : Nat} (h : n < 16) : isHexDigit (hexDigit n) := by
  have hall : ∀ n : Fin 16, isHexDigit (hexDigit n) := by decide
  exact hall ⟨n, h⟩

theorem Md5.isHexDigit_of_mem_hexByte {n : Nat} (h : n < 256) {c : Char} (hc : c ∈ hexByte n) :
    isHexDigit c := by
  rcases List.mem_pair.mp hc with rfl | rfl
  · exact isHexDigit_hexDigit (by omega)
  · exact isHexDigit_hexDigit (by omega)

theorem Md5.length_hexWord (word : BitVec 32) : (hexWord word).length = 8 := by
  simp [hexWord, hexByte]

theorem isDigest_md5Hex (input : List Char) : IsDigest (md5Hex input) := by
  constructor
  · simp [md5Hex, Md5.length_hexWord]
  · intro c hc
    obtain ⟨word, -, hword⟩ := List.mem_flatMap.mp hc
    obtain ⟨i, -, hbyte⟩ := List.mem_flatMap.mp hword
    exact Md5.isHexDigit_of_mem_hexByte (Nat.mod_lt _ (by decide)) hbyte

-- from here on only the shape of a digest matters, and the unifier must not run the hash
attribute [irreducible] md5Hex

/-- No character of a digest stops a scan. -/
theorem IsDigest.not_mem {text : List Char} (h : IsDigest text) {c : Char}
    (hc : isHexDigit c = false) : c ∉ text := by
  intro hmem
  rw [h.2 c hmem] at hc
  cases hc

theorem IsDigest.ne_nil {text : List Char} (h : IsDigest text) : text ≠ [] := by
  intro hnil
  have hlength := h.1
  rw [hnil] at hlength
  cases hlength

example : md5Hex "abc".toList = "900150983cd24fb0d6963f7d28e17f72".toList := by decide +kernel

end Tr069d
