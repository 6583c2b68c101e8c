/-
Whole numbers as bytes.

Hashes, ciphers and signatures are defined on numbers and exchanged as bytes, some
with the high byte in front and some with the low one.
-/
import QuorumVault.Powers
import QuorumVault.Text.Utf8

namespace QuorumVault.Bytes

/-- The number whose high byte stands in front. -/
def bigEndian (bytes : Bytes) : Nat :=
  bytes.foldl (fun n b => n * 256 + b.toNat) 0

/-- The number whose low byte stands in front. -/
def littleEndian (bytes : Bytes) : Nat :=
  bytes.foldr (fun b n => b.toNat + 256 * n) 0

/-- The lowest bytes of a number, the lowest in front. -/
def ofLittleEndian : Nat → Nat → Bytes
  | 0, _ => []
  | width + 1, n => UInt8.ofNat n :: ofLittleEndian width (n / 256)

/-- The lowest bytes of a number, the highest of them in front. -/
def ofBigEndian (width n : Nat) : Bytes :=
  (ofLittleEndian width n).reverse

@[simp] theorem length_ofLittleEndian (width n : Nat) : (ofLittleEndian width n).length = width := by
  induction width generalizing n with
  | zero => rfl
  | succ width ih => simp [ofLittleEndian, ih]

@[simp] theorem length_ofBigEndian (width n : Nat) : (ofBigEndian width n).length = width := by
  simp [ofBigEndian]

/-- Reading undoes writing, as far as the width goes. -/
theorem littleEndian_ofLittleEndian (width n : Nat) :
    littleEndian (ofLittleEndian width n) = n % 256 ^ width := by
  induction width generalizing n with
  | zero => simp [littleEndian, ofLittleEndian, Nat.mod_one]
  | succ width ih =>
    show (UInt8.ofNat n).toNat + 256 * littleEndian (ofLittleEndian width (n / 256)) = _
    have step : 256 ^ (width + 1) = 256 * 256 ^ width := by rw [Nat.pow_succ, Nat.mul_comm]
    rw [ih, step, Nat.mod_mul]
    rfl

theorem bigEndian_eq_littleEndian (bytes : Bytes) : bigEndian bytes = littleEndian bytes.reverse := by
  unfold bigEndian littleEndian
  rw [List.foldr_reverse]
  congr 1
  funext n b
  omega

/-- Reading undoes writing, as far as the width goes. -/
theorem bigEndian_ofBigEndian (width n : Nat) :
    bigEndian (ofBigEndian width n) = n % 256 ^ width := by
  rw [bigEndian_eq_littleEndian, ofBigEndian, List.reverse_reverse, littleEndian_ofLittleEndian]

/-- Pieces of `size + 1` bytes, the last one with what is left. -/
def chunks (size : Nat) (bytes : Bytes) : List Bytes :=
  match bytes with
  | [] => []
  | b :: rest => (b :: rest.take size) :: chunks size (rest.drop size)
termination_by bytes.length

end QuorumVault.Bytes
