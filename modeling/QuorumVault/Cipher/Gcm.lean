/-
Galois counter mode.

A block cipher turns a nonce of twelve bytes and a counter into a stream of bytes.  A
text is hidden by adding the stream to it, and shown again by adding it once more.
Behind the hidden text stands a tag of sixteen bytes: the value of a polynomial over
the field of 2^128 elements, whose coefficients are the blocks of the hidden text, at
a point that only the key determines, with the stream's first block added.  Nothing
is shown unless the tag is right.

All of it is stated for any cipher, of which only that it maps blocks to blocks is used.
-/
import QuorumVault.Cipher.Aes
import QuorumVault.Powers

namespace QuorumVault.Gcm

open Aes (Block)

/-- The length of a nonce. -/
def nonceLength : Nat := 12

/-- The length of a tag. -/
def tagLength : Nat := 16

/-! ### The stream -/

/-- The block of a nonce and a counter. -/
def counterBlock (nonce : Bytes) (counter : Nat) : Block :=
  Block.ofBytes (nonce ++ Bytes.ofBigEndian 4 counter)

/-- A number of blocks of the stream. -/
def stream (cipher : Block → Block) (nonce : Bytes) : Nat → Nat → Bytes
  | 0, _ => []
  | blocks + 1, counter =>
    (cipher (counterBlock nonce counter)).toList ++ stream cipher nonce blocks (counter + 1)

/-- Adds the stream to a text; adding it twice gives the text back. -/
def mask (cipher : Block → Block) (nonce text : Bytes) : Bytes :=
  List.zipWith (· ^^^ ·) text (stream cipher nonce ((text.length + 15) / 16) 2)

/-! ### The tag -/

/-- Multiplies by the field's generator; the highest bit is the constant coefficient. -/
def shift (v : Nat) : Nat :=
  if v % 2 = 1 then (v / 2) ^^^ (0xE1 * 2 ^ 120) else v / 2

/-- Multiplies two elements, bit by bit of the first from the highest on. -/
def timesBits : Nat → Nat → Nat → Nat → Nat
  | 0, _, _, z => z
  | bits + 1, x, v, z => timesBits bits x (shift v) (if x.testBit bits then z ^^^ v else z)

/-- Multiplies two elements. -/
def times (x y : Nat) : Nat :=
  timesBits 128 x y 0

/-- The value at a point of the polynomial whose coefficients are blocks. -/
def polynomial (point : Nat) (blocks : List Nat) : Nat :=
  blocks.foldl (fun sum b => times (sum ^^^ b) point) 0

/-- The coefficients of a text: its blocks, zeros behind the last one, and its length in bits. -/
def coefficients (text : Bytes) : List Nat :=
  (Bytes.chunks 15 text).map (fun b => Bytes.bigEndian (Block.ofBytes b).toList)
    ++ [8 * text.length]

/-- The tag of a hidden text. -/
def tag (cipher : Block → Block) (nonce hidden : Bytes) : Bytes :=
  let point := Bytes.bigEndian (cipher (Block.ofBytes [])).toList
  let sum := Block.ofBytes (Bytes.ofBigEndian 16 (polynomial point (coefficients hidden)))
  (sum.xor (cipher (counterBlock nonce 1))).toList

/-! ### Sealing -/

/-- Hides a text and appends its tag. -/
def encrypt (cipher : Block → Block) (nonce text : Bytes) : Bytes :=
  let hidden := mask cipher nonce text
  hidden ++ tag cipher nonce hidden

/-- Shows a hidden text if its tag is right. -/
def decrypt (cipher : Block → Block) (nonce sealed : Bytes) : Option Bytes :=
  let hidden := sealed.take (sealed.length - tagLength)
  let given := sealed.drop (sealed.length - tagLength)
  if given = tag cipher nonce hidden then some (mask cipher nonce hidden) else none

/-! ### Showing undoes hiding -/

@[simp] theorem length_stream (cipher : Block → Block) (nonce : Bytes) (blocks counter : Nat) :
    (stream cipher nonce blocks counter).length = 16 * blocks := by
  induction blocks generalizing counter with
  | zero => rfl
  | succ blocks ih => simp [stream, ih]; omega

@[simp] theorem length_mask (cipher : Block → Block) (nonce text : Bytes) :
    (mask cipher nonce text).length = text.length := by
  simp [mask]
  omega

/-- Adding the stream twice gives the text back. -/
@[simp] theorem mask_mask (cipher : Block → Block) (nonce text : Bytes) :
    mask cipher nonce (mask cipher nonce text) = text := by
  rw [mask, length_mask]
  refine List.ext_getElem ?_ fun i h₁ h₂ => ?_
  · simp; omega
  · simp only [mask, List.getElem_zipWith, UInt8.xor_assoc, UInt8.xor_self, UInt8.xor_zero]

@[simp] theorem length_tag (cipher : Block → Block) (nonce hidden : Bytes) :
    (tag cipher nonce hidden).length = tagLength := by
  simp [tag, tagLength]

@[simp] theorem length_encrypt (cipher : Block → Block) (nonce text : Bytes) :
    (encrypt cipher nonce text).length = text.length + tagLength := by
  simp [encrypt]

/-- Whatever the cipher, what was hidden can be shown. -/
@[simp] theorem decrypt_encrypt (cipher : Block → Block) (nonce text : Bytes) :
    decrypt cipher nonce (encrypt cipher nonce text) = some text := by
  simp [decrypt, encrypt]

end QuorumVault.Gcm
