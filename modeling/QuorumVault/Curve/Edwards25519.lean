/-
The curve `-x^2 + y^2 = 1 + d x^2 y^2` and Ed25519 signatures on it.

A point is written as its second coordinate, with the parity of the first one in the
highest bit.  A signature holds the point that the signer drew and a number; it is
good if computing the point from the number, the key and the message gives the very
bytes of the signature.
-/
import QuorumVault.Curve.Modular
import QuorumVault.Hash.Sha2
import QuorumVault.Powers

namespace QuorumVault.Edwards25519

/-- The number of elements of the field. -/
def prime : Nat := 2 ^ 255 - 19

/-- The order of the base point. -/
def order : Nat := 2 ^ 252 + 27742317777372353535851937790883648493

/-- The coefficient `d` of the curve. -/
def coefficient : Nat :=
  Modular.div prime (prime - 121665) 121666

/-- A square root of minus one. -/
def rootOfMinusOne : Nat :=
  Modular.pow prime 2 ((prime - 1) / 4)

/-- A point of the curve. -/
structure Point where
  x : Nat
  y : Nat
deriving DecidableEq, Repr

namespace Point

def neutral : Point := ⟨0, 1⟩

/-- The sum of two points. -/
def add (p q : Point) : Point :=
  let crossed := coefficient * (p.x * q.x % prime * (p.y * q.y % prime) % prime) % prime
  let factor := Modular.inverse prime ((1 + crossed) * (Modular.sub prime 1 crossed))
  ⟨(p.x * q.y + q.x * p.y) % prime * (Modular.sub prime 1 crossed * factor % prime) % prime,
    (p.y * q.y + p.x * q.x) % prime * ((1 + crossed) * factor % prime) % prime⟩

/-- The inverse of a point. -/
def neg (p : Point) : Point :=
  ⟨Modular.sub prime 0 p.x, p.y⟩

/-- A multiple of a point. -/
def times (k : Nat) (p : Point) : Point :=
  if k = 0 then neutral
  else
    let half := times (k / 2) p
    let even := half.add half
    if k % 2 = 1 then even.add p else even
termination_by k
decreasing_by omega

/-- A square root, if there is one. -/
def root? (a : Nat) : Option Nat :=
  let c := Modular.pow prime a ((prime + 3) / 8)
  let c := if c * c % prime = a % prime then c else c * rootOfMinusOne % prime
  if c * c % prime = a % prime then some c else none

/-- The point with a given second coordinate whose first one is odd or even.  Zero counts as odd
too, and the coordinate need not be reduced. -/
def lift? (y : Nat) (odd : Bool) : Option Point :=
  let square := y * y % prime
  (root? (Modular.div prime (Modular.sub prime square 1) (coefficient * square + 1))).map fun x =>
    ⟨if (x % 2 == 1) == odd then x else Modular.sub prime 0 x, y % prime⟩

def ofBytes? (bytes : Bytes) : Option Point :=
  let n := bytes.littleEndian
  lift? (n % 2 ^ 255) (n / 2 ^ 255 % 2 == 1)

def bytes (p : Point) : Bytes :=
  Bytes.ofLittleEndian 32 (p.y + p.x % 2 * 2 ^ 255)

def base : Point :=
  (lift? (Modular.div prime 4 5) false).getD neutral

end Point

/-- What can be wrong with a signature of the right length. -/
inductive Verdict where
  | good
  | numberTooLarge
  | mismatch
deriving DecidableEq, Repr

/-- The number that binds a signature to its point, the key and the message. -/
def challenge (drawn key message : Bytes) : Nat :=
  Bytes.littleEndian (Sha2.sha512.hash (drawn ++ key ++ message)) % order

/-- Judges a signature of 64 bytes under a key given as its bytes and as the point they mean. -/
def verify (keyBytes : Bytes) (key : Point) (message signature : Bytes) : Verdict :=
  let drawn := signature.take 32
  let s := Bytes.littleEndian (signature.drop 32)
  if order ≤ s then .numberTooLarge
  else
    let k := challenge drawn keyBytes message
    if ((Point.base.times s).add (key.neg.times k)).bytes = drawn then .good else .mismatch

end QuorumVault.Edwards25519
