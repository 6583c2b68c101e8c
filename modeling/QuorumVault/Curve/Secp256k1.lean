/-
The curve `y^2 = x^3 + 7` and ECDSA signatures on it.

A signature is a pair of numbers between one and the order of the base point.  Of the
two signatures that one of them and its negative make, only the one whose second
number is in the lower half verifies, so a signature cannot be altered and stay good.
-/
import QuorumVault.Curve.Modular
import QuorumVault.Encoding.Integers
import QuorumVault.Powers

namespace QuorumVault.Secp256k1

/-- The number of elements of the field. -/
def prime : Nat := 2 ^ 256 - 2 ^ 32 - 977

/-- The number of points. -/
def order : Nat := 0xFFFFFFFFFFFFFFFFFFFFFFFFFFFFFFFEBAAEDCE6AF48A03BBFD25E8CD0364141

/-- A point of the curve. -/
inductive Point where
  | infinity
  | affine (x y : Nat)
deriving DecidableEq, Repr

def base : Point :=
  .affine 0x79BE667EF9DCBBAC55A06295CE870B07029BFCDB2DCE28D959F2815B16F81798
    0x483ADA7726A3C4655DA4FBFC0E1108A8FD17B448A68554199C47D08FFB10D4B8

namespace Point

/-- The third point of a line of known slope, reflected. -/
def across (slope x₁ y₁ x₂ : Nat) : Point :=
  let x := Modular.sub prime (slope * slope) (x₁ + x₂)
  .affine x (Modular.sub prime (slope * (Modular.sub prime x₁ x)) y₁)

/-- The sum of two points. -/
def add : Point → Point → Point
  | .infinity, q => q
  | p, .infinity => p
  | .affine x₁ y₁, .affine x₂ y₂ =>
    if x₁ = x₂ then
      if (y₁ + y₂) % prime = 0 then .infinity
      else across (Modular.div prime (3 * x₁ * x₁) (2 * y₁)) x₁ y₁ x₂
    else
      across (Modular.div prime (Modular.sub prime y₂ y₁) (Modular.sub prime x₂ x₁)) x₁ y₁ x₂

/-- A multiple of a point. -/
def times (k : Nat) (p : Point) : Point :=
  if k = 0 then .infinity
  else
    let half := times (k / 2) p
    let even := half.add half
    if k % 2 = 1 then even.add p else even
termination_by k
decreasing_by omega

/-- The coordinates satisfy the equation of the curve. -/
def onCurve (x y : Nat) : Bool :=
  y * y % prime == (x * x * x + 7) % prime

/-- The point with a given first coordinate whose second one is odd or even. -/
def lift? (x : Nat) (odd : Bool) : Option Point :=
  let root := Modular.pow prime (x * x * x + 7) ((prime + 1) / 4)
  if x < prime ∧ onCurve x root then
    some (.affine x (if (root % 2 == 1) == odd then root else Modular.sub prime 0 root))
  else none

/-- Reads a point other than the neutral one.  A leading byte tells the form: 2 and 3 stand before
the first coordinate of a point whose second one is even or odd, 5 is another mark for even, and
4 stands before both coordinates. -/
def ofBytes? : Bytes → Option Point
  | [] => none
  | tag :: coordinates =>
    let x := Bytes.bigEndian (coordinates.take 32)
    let y := Bytes.bigEndian (coordinates.drop 32)
    if coordinates.length = 32 then
      if tag = 2 ∨ tag = 5 then lift? x false
      else if tag = 3 then lift? x true
      else none
    else if coordinates.length = 64 ∧ tag = 4 then
      if x < prime ∧ y < prime ∧ onCurve x y then some (.affine x y) else none
    else none

end Point

/-! ### Signatures -/

/-- A number that a signature may hold. -/
def InRange (n : Nat) : Prop :=
  0 < n ∧ n < order

instance (n : Nat) : Decidable (InRange n) :=
  inferInstanceAs (Decidable (_ ∧ _))

/-- A signature. -/
structure Signature where
  /-- The first number, from the point that the signer drew. -/
  r : Nat
  s : Nat
  r_inRange : InRange r
  s_inRange : InRange s

/-- Reads a signature: two numbers of 32 bytes. -/
def Signature.ofBytes? (bytes : Bytes) : Option Signature :=
  let r := Bytes.bigEndian (bytes.take 32)
  let s := Bytes.bigEndian (bytes.drop 32)
  if h : bytes.length = 64 ∧ InRange r ∧ InRange s then some ⟨r, s, h.2.1, h.2.2⟩ else none

/-- The number that stands for a digest: its first 32 bytes.  Digests below half that length are
refused, because they bind a signature to too little. -/
def digestNumber? (digest : Bytes) : Option Nat :=
  if digest.length < 16 then none else some (Bytes.bigEndian (digest.take 32))

/-- Whether a signature of a digest is good under a key. -/
def verify (key : Point) (digest : Bytes) (signature : Signature) : Bool :=
  match digestNumber? digest with
  | none => false
  | some z =>
    if order / 2 < signature.s then false
    else
      let inverse := Modular.inverse order signature.s
      let drawn := (base.times (z * inverse % order)).add (key.times (signature.r * inverse % order))
      match drawn with
      | .infinity => false
      | .affine x _ => x % order == signature.r

end QuorumVault.Secp256k1
