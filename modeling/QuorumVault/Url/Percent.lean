/-
Bytes written by their codes.

An address is in ASCII.  Where a part of it has a byte that cannot stand there as it is,
a percent sign and two hexadecimal digits take its place.  Reading takes everything else
as it is, also a percent sign without two digits behind it.
-/
import QuorumVault.Encoding.Hex

namespace QuorumVault.Percent

/-- A hexadecimal digit, in capitals. -/
def digit (n : Nat) : Char :=
  (Hex.digit n).toUpper

/-- A byte by its code. -/
def escape (b : UInt8) : List Char :=
  ['%', digit (b.toNat / 16), digit (b.toNat % 16)]

/-- Writes a text; what is not in ASCII, invisible or among some characters is written by its
code. -/
def encode (among : List Char) (cs : List Char) : List Char :=
  cs.flatMap fun c =>
    if 32 ≤ c.toNat ∧ c.toNat < 127 ∧ c ∉ among then [c]
    else (Utf8.encodePoint c.toNat).flatMap escape

/-- Reads a text as bytes. -/
def decode : Bytes → Bytes
  | 37 :: high :: low :: rest =>
    match Hex.digitValue high, Hex.digitValue low with
    | some h, some l => UInt8.ofNat (16 * h + l) :: decode rest
    | _, _ => 37 :: decode (high :: low :: rest)
  | b :: rest => b :: decode rest
  | [] => []
termination_by bytes => bytes.length

end QuorumVault.Percent
