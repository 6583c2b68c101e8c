/-
The BLAKE3 hash.

A message is cut into chunks of 1024 bytes, the leaves of a binary tree whose left
subtrees are complete and as large as possible.  A chunk is worked through in blocks
of 64 bytes, an inner node is one block with the values of its two children, and the
top is worked through once more with a mark of its own.
-/
import QuorumVault.Encoding.Integers
import QuorumVault.Powers

namespace QuorumVault.Blake3

/-- The eight words that one step hands to the next. -/
abbrev Chain := Vector UInt32 8

/-- The sixteen words of a block or of the state. -/
abbrev Words := Vector UInt32 16

/-- The chain before the first block. -/
def start : Chain :=
  #v[0x6A09E667, 0xBB67AE85, 0x3C6EF372, 0xA54FF53A, 0x510E527F, 0x9B05688C, 0x1F83D9AB, 0x5BE0CD19]

/-- Where each word of the block comes from in the next round. -/
def shuffle : Vector (Fin 16) 16 :=
  #v[2, 6, 3, 10, 7, 0, 4, 13, 1, 11, 12, 5, 9, 14, 15, 8]

def rotate (x places : UInt32) : UInt32 :=
  (x >>> places) ||| (x <<< (32 - places))

/-- Mixes two words of the block into four of the state. -/
def mix (s : Words) (a b c d : Fin 16) (x y : UInt32) : Words :=
  let a₁ := s[a] + s[b] + x
  let d₁ := rotate (s[d] ^^^ a₁) 16
  let c₁ := s[c] + d₁
  let b₁ := rotate (s[b] ^^^ c₁) 12
  let a₂ := a₁ + b₁ + y
  let d₂ := rotate (d₁ ^^^ a₂) 8
  let c₂ := c₁ + d₂
  let b₂ := rotate (b₁ ^^^ c₂) 7
  (((s.set a a₂).set b b₂).set c c₂).set d d₂

/-- One round: the columns, then the diagonals. -/
def round (s m : Words) : Words :=
  let s := mix s 0 4 8 12 m[0] m[1]
  let s := mix s 1 5 9 13 m[2] m[3]
  let s := mix s 2 6 10 14 m[4] m[5]
  let s := mix s 3 7 11 15 m[6] m[7]
  let s := mix s 0 5 10 15 m[8] m[9]
  let s := mix s 1 6 11 12 m[10] m[11]
  let s := mix s 2 7 8 13 m[12] m[13]
  mix s 3 4 9 14 m[14] m[15]

/-- A number of rounds, the block shuffled between them. -/
def rounds : Nat → Words → Words → Words
  | 0, s, _ => s
  | n + 1, s, m => rounds n (round s m) (shuffle.map fun i => m[i])

/-- Marks of a block. -/
structure Marks where
  first : Bool := false
  last : Bool := false
  inner : Bool := false
deriving DecidableEq, Repr

/-- The word that carries the marks, with the one of the top. -/
def Marks.word (k : Marks) (top : Bool) : UInt32 :=
  (if k.first then 1 else 0) + (if k.last then 2 else 0) + (if k.inner then 4 else 0)
    + (if top then 8 else 0)

/-- A block that waits to be worked in, the last one of its node. -/
structure Node where
  chain : Chain
  block : Words
  counter : Nat
  length : Nat
  marks : Marks

def Node.compress (n : Node) (top : Bool) : Chain :=
  let h := n.chain
  let s := rounds 7
    #v[h[0], h[1], h[2], h[3], h[4], h[5], h[6], h[7], start[0], start[1], start[2], start[3],
      UInt32.ofNat n.counter, UInt32.ofNat (n.counter / 2 ^ 32), UInt32.ofNat n.length,
      n.marks.word top] n.block
  Vector.ofFn fun i : Fin 8 => s[i.val] ^^^ s[i.val + 8]

/-- The words of a block, zeros behind its bytes. -/
def blockWords (bytes : Bytes) : Words :=
  let words := (Bytes.chunks 3 bytes).map fun w => UInt32.ofNat w.littleEndian
  Vector.ofFn fun i : Fin 16 => words.getD i 0

/-- The node of a chunk whose first blocks gave `chain`. -/
def chunkFrom (counter : Nat) (first : Bool) (chain : Chain) : List Bytes → Node
  | [] => ⟨chain, blockWords [], counter, 0, { first, last := true }⟩
  | [block] => ⟨chain, blockWords block, counter, block.length, { first, last := true }⟩
  | block :: rest =>
    let here : Node := ⟨chain, blockWords block, counter, block.length, { first }⟩
    chunkFrom counter false (here.compress false) rest

/-- The node of a chunk. -/
def chunk (counter : Nat) (bytes : Bytes) : Node :=
  chunkFrom counter true start (Bytes.chunks 63 bytes)

/-- The node above two others. -/
def join (left right : Chain) : Node :=
  ⟨start, left ++ right, 0, 64, { inner := true }⟩

/-- How many of at least two chunks go to the left: the largest power of two that leaves one over. -/
def leftCount (n : Nat) : Nat :=
  2 ^ (n - 1).log2

theorem leftCount_pos (n : Nat) : 0 < leftCount n :=
  Nat.two_pow_pos _

theorem leftCount_lt {n : Nat} (h : 2 ≤ n) : leftCount n < n := by
  have := Nat.log2_self_le (n := n - 1) (by omega)
  simp only [leftCount]
  omega

/-- The tree over chunks, the first of which has the given number. -/
def tree (counter : Nat) : List Bytes → Node
  | [] => chunk counter []
  | [c] => chunk counter c
  | a :: b :: rest =>
    let k := leftCount (rest.length + 2)
    join ((tree counter ((a :: b :: rest).take k)).compress false)
      ((tree (counter + k) ((a :: b :: rest).drop k)).compress false)
termination_by chunks => chunks.length
decreasing_by
  all_goals
    have := leftCount_pos (rest.length + 2)
    have := leftCount_lt (n := rest.length + 2) (by omega)
    simp only [List.length_take, List.length_drop, List.length_cons]
    omega

/-- The hash of a message. -/
def hash (message : Bytes) : Bytes :=
  ((tree 0 (Bytes.chunks 1023 message)).compress true).toList.flatMap fun w =>
    Bytes.ofLittleEndian 4 w.toNat

end QuorumVault.Blake3
