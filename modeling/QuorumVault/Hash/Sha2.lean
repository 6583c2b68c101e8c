/-
The SHA-2 hashes.

The two members of the family that are needed differ in the width of a word, in the
number of rounds and in the distances of their rotations; all else is one algorithm.
The constants are not arbitrary either: they are the first bits behind the point of
the square and cube roots of the first primes.
-/
import QuorumVault.Encoding.Integers
import QuorumVault.Powers

namespace QuorumVault.Sha2

/-! ### Constants -/

/-- The largest number below `2 ^ bits` more than `root` whose power does not exceed `n`. -/
def growRoot (power n : Nat) : Nat → Nat → Nat
  | 0, root => root
  | bits + 1, root =>
    let next := root + 2 ^ bits
    growRoot power n bits (if next ^ power ≤ n then next else root)

/-- The whole part of a root of a number below `2 ^ (power * bits)`. -/
def root (power bits n : Nat) : Nat :=
  growRoot power n bits 0

/-- The first `count` primes from `n` on, if they lie within the bound. -/
def primesFrom : Nat → Nat → Nat → List Nat
  | 0, _, _ => []
  | _, 0, _ => []
  | bound + 1, count + 1, n =>
    if (List.range n).all fun d => d < 2 || n % d != 0 then n :: primesFrom bound count (n + 1)
    else primesFrom bound (count + 1) (n + 1)

def primes : List Nat :=
  primesFrom 500 80 2

/-- The first bits behind the point of a root of a small number. -/
def rootBits (width power n : Nat) : BitVec width :=
  BitVec.ofNat width (root power (width + 8) (n * 2 ^ (power * width)))

/-! ### The family -/

/-- What tells the members apart. -/
structure Variant where
  width : Nat
  rounds : Nat
  upper : Nat × Nat × Nat
  lower : Nat × Nat × Nat
  /-- The two rotations and the shift that mix the word fifteen places back. -/
  near : Nat × Nat × Nat
  /-- The two rotations and the shift that mix the word two places back. -/
  far : Nat × Nat × Nat

def sha256 : Variant :=
  ⟨32, 64, (2, 13, 22), (6, 11, 25), (7, 18, 3), (17, 19, 10)⟩

def sha512 : Variant :=
  ⟨64, 80, (28, 34, 39), (14, 18, 41), (1, 8, 7), (19, 61, 6)⟩

namespace Variant

variable (v : Variant)

abbrev Word := BitVec v.width

/-- The words of the round constants. -/
def constants : List v.Word :=
  (primes.take v.rounds).map (rootBits v.width 3)

/-- The eight words of the state. -/
structure State where
  a : v.Word
  b : v.Word
  c : v.Word
  d : v.Word
  e : v.Word
  f : v.Word
  g : v.Word
  h : v.Word

/-- The state before the first block. -/
def start : v.State :=
  let r := rootBits v.width 2
  ⟨r 2, r 3, r 5, r 7, r 11, r 13, r 17, r 19⟩

variable {v}

/-- A word mixed with two rotations of itself. -/
def spin (distances : Nat × Nat × Nat) (x : v.Word) : v.Word :=
  x.rotateRight distances.1 ^^^ x.rotateRight distances.2.1 ^^^ x.rotateRight distances.2.2

/-- A word mixed with a rotation and a shift of itself. -/
def stir (distances : Nat × Nat × Nat) (x : v.Word) : v.Word :=
  x.rotateRight distances.1 ^^^ x.rotateRight distances.2.1 ^^^ (x >>> distances.2.2)

/-- One round with its constant and its word of the message. -/
def State.round (s : v.State) (constant word : v.Word) : v.State :=
  let choice := (s.e &&& s.f) ^^^ (~~~s.e &&& s.g)
  let majority := (s.a &&& s.b) ^^^ (s.a &&& s.c) ^^^ (s.b &&& s.c)
  let first := s.h + spin v.lower s.e + choice + constant + word
  let second := spin v.upper s.a + majority
  ⟨first + second, s.a, s.b, s.c, s.d + first, s.e, s.f, s.g⟩

/-- The rounds; the window holds the next sixteen words of the message. -/
def State.rounds (s : v.State) : List v.Word → List v.Word → v.State
  | constant :: constants, w :: window =>
    let next := stir v.far (window.getD 13 0) + window.getD 8 0 + stir v.near (window.getD 0 0) + w
    (s.round constant w).rounds constants (window ++ [next])
  | _, _ => s

def State.add (s t : v.State) : v.State :=
  ⟨s.a + t.a, s.b + t.b, s.c + t.c, s.d + t.d, s.e + t.e, s.f + t.f, s.g + t.g, s.h + t.h⟩

/-- The bytes of the state. -/
def State.bytes (s : v.State) : Bytes :=
  [s.a, s.b, s.c, s.d, s.e, s.f, s.g, s.h].flatMap fun x => Bytes.ofBigEndian (v.width / 8) x.toNat

theorem State.length_bytes (s : v.State) : s.bytes.length = 8 * (v.width / 8) := by
  simp only [State.bytes, List.length_flatMap, Bytes.length_ofBigEndian, List.map_cons, List.map_nil,
    List.sum_cons, List.sum_nil]
  omega

variable (v)

/-- The bytes of a block. -/
def blockBytes : Nat :=
  2 * v.width

/-- The message followed by a one bit, zeros and its length in bits, so that whole blocks result. -/
def pad (message : Bytes) : Bytes :=
  let tail := v.width / 4
  let zeros := (2 * v.blockBytes - 1 - tail - message.length % v.blockBytes) % v.blockBytes
  message ++ 0x80 :: List.replicate zeros 0 ++ Bytes.ofBigEndian tail (8 * message.length)

/-- Works one block into the state. -/
def absorb (constants : List v.Word) (s : v.State) (block : Bytes) : v.State :=
  let words := (Bytes.chunks (v.width / 8 - 1) block).map fun w => BitVec.ofNat v.width w.bigEndian
  s.add (s.rounds constants words)

/-- The hash of a message. -/
def hash (message : Bytes) : Bytes :=
  ((Bytes.chunks (v.blockBytes - 1) (v.pad message)).foldl (v.absorb v.constants) v.start).bytes

theorem length_hash (message : Bytes) : (v.hash message).length = 8 * (v.width / 8) :=
  State.length_bytes _

end Variant

end QuorumVault.Sha2
