/-
The AES block cipher with keys of 256 bits, in the direction that encrypts.

A byte is a polynomial over two elements of degree below eight, taken modulo
`x^8 + x^4 + x^3 + x + 1`.  The byte substitution is the inverse in that field followed
by an affine map, so its table is computed rather than listed.
-/
import QuorumVault.Encoding.Integers

namespace QuorumVault.Aes

abbrev Block := Vector UInt8 16

/-- The block that begins with the given bytes, zeros behind them. -/
def Block.ofBytes (bytes : Bytes) : Block :=
  let filled := bytes.toArray
  Vector.ofFn fun i => filled.getD i.val 0

/-- Byte by byte exclusive or. -/
def Block.xor (x y : Block) : Block :=
  Vector.zipWith (· ^^^ ·) x y

/-! ### The field of 256 elements -/

/-- Multiplies by `x`. -/
def double (b : UInt8) : UInt8 :=
  if b.toNat < 128 then b <<< 1 else (b <<< 1) ^^^ 0x1B

/-- Multiplies two elements, the second one given by its bits from the lowest on. -/
def timesBits : Nat → UInt8 → UInt8 → UInt8
  | 0, _, _ => 0
  | bits + 1, a, b => (if b.toNat % 2 = 1 then a else 0) ^^^ timesBits bits (double a) (b >>> 1)

/-- Multiplies two elements. -/
def times (a b : UInt8) : UInt8 :=
  timesBits 8 a b

/-- The inverse of an element, zero for zero: its power 254, which is the product of the powers
2, 4, up to 128. -/
def inverse (a : UInt8) : UInt8 :=
  ((List.range 7).foldl (fun (square, product) _ =>
    let square := times square square
    (square, times product square)) (a, 1)).2

def rotateLeft (b places : UInt8) : UInt8 :=
  (b <<< places) ||| (b >>> (8 - places))

/-- The substitution of one byte. -/
def substituteByte (a : UInt8) : UInt8 :=
  let b := inverse a
  b ^^^ rotateLeft b 1 ^^^ rotateLeft b 2 ^^^ rotateLeft b 3 ^^^ rotateLeft b 4 ^^^ 0x63

/-- The substitution as a table. -/
def substitution : Vector UInt8 256 :=
  Vector.ofFn fun i => substituteByte (UInt8.ofNat i.val)

/-- The substitution of one byte, looked up. -/
def substitute (a : UInt8) : UInt8 :=
  substitution.get ⟨a.toNat, a.toNat_lt⟩

/-! ### Rounds -/

def subBytes (s : Block) : Block :=
  s.map substitute

/-- Turns row `r` of the four rows to the left by `r`; the block lists columns. -/
def shiftRows (s : Block) : Block :=
  Vector.ofFn fun i : Fin 16 => s[(i.val + 4 * (i.val % 4)) % 16]

/-- Multiplies every column by the polynomial with the coefficients 2, 1, 1, 3. -/
def mixColumns (s : Block) : Block :=
  Vector.ofFn fun i : Fin 16 =>
    let column := i.val / 4 * 4
    let entry (k : Nat) : UInt8 := s[(column + (i.val + k) % 4) % 16]
    double (entry 0) ^^^ double (entry 1) ^^^ entry 1 ^^^ entry 2 ^^^ entry 3

/-- The round keys in the order of their use; there are fifteen. -/
abbrev Schedule := List Block

/-- Four bytes of the key schedule. -/
abbrev Word := UInt8 × UInt8 × UInt8 × UInt8

def Word.xor (x y : Word) : Word :=
  (x.1 ^^^ y.1, x.2.1 ^^^ y.2.1, x.2.2.1 ^^^ y.2.2.1, x.2.2.2 ^^^ y.2.2.2)

/-- Substitutes the bytes of a word. -/
def Word.substitute (x : Word) : Word :=
  (Aes.substitute x.1, Aes.substitute x.2.1, Aes.substitute x.2.2.1, Aes.substitute x.2.2.2)

/-- Further words of the key schedule from the eight before them; `i` counts the words so far. -/
def moreWords : Nat → Nat → UInt8 → List Word → List Word
  | 0, _, _, _ => []
  | count + 1, i, constant, window =>
    let last : Word := window.getD 7 (0, 0, 0, 0)
    let turned : Word := (last.2.1, last.2.2.1, last.2.2.2, last.1)
    let mixed :=
      if i % 8 = 0 then turned.substitute.xor (constant, 0, 0, 0)
      else if i % 8 = 4 then last.substitute
      else last
    let next := (window.getD 0 (0, 0, 0, 0)).xor mixed
    next :: moreWords count (i + 1) (if i % 8 = 0 then double constant else constant)
      (window.drop 1 ++ [next])

/-- The words of a key. -/
def keyWords (key : Bytes) : List Word :=
  (Bytes.chunks 3 key).map fun w => (w.getD 0 0, w.getD 1 0, w.getD 2 0, w.getD 3 0)

/-- The round keys of a key of 32 bytes. -/
def schedule (key : Bytes) : Schedule :=
  let words := keyWords key
  let all := words ++ moreWords 52 8 1 words
  (Bytes.chunks 15 (all.flatMap fun w => [w.1, w.2.1, w.2.2.1, w.2.2.2])).map Block.ofBytes

/-- The rounds with the given keys; the last one mixes no columns. -/
def rounds : Schedule → Block → Block
  | [], s => s
  | [key], s => (shiftRows (subBytes s)).xor key
  | key :: keys, s => rounds keys ((mixColumns (shiftRows (subBytes s))).xor key)

def encrypt : Schedule → Block → Block
  | [], s => s
  | key :: keys, s => rounds keys (s.xor key)

end QuorumVault.Aes
