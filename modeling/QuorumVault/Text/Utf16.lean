/-
UTF-16.

Text in units of two bytes, either of which may come first.  A character beyond the
first 2^16 takes a pair of units, which stand for no character on their own.  What is
no text is read as replacement characters.
-/
import QuorumVault.Text.Utf8

namespace QuorumVault.Utf16

/-- A unit that begins a pair. -/
def isLead (unit : Nat) : Bool :=
  0xD800 ≤ unit && unit ≤ 0xDBFF

/-- A unit that ends a pair. -/
def isTrail (unit : Nat) : Bool :=
  0xDC00 ≤ unit && unit ≤ 0xDFFF

/-- The character of a unit that belongs to no pair. -/
def alone (unit : Nat) : Char :=
  if isLead unit || isTrail unit then '\uFFFD' else Char.ofNat unit

/-- Reads units; `odd` says whether half a unit is left behind them. -/
def decodeUnits (odd : Bool) : List Nat → List Char
  | [] => if odd then ['\uFFFD'] else []
  | [unit] =>
    -- A text that breaks off in the middle of a pair is one fault, not two.
    if odd && !isLead unit then [alone unit, '\uFFFD'] else [alone unit]
  | lead :: unit :: rest =>
    if isLead lead && isTrail unit then
      Char.ofNat (0x10000 + (lead - 0xD800) * 0x400 + (unit - 0xDC00)) :: decodeUnits odd rest
    else alone lead :: decodeUnits odd (unit :: rest)

/-- The units of a byte string, made of two bytes each. -/
def units (unit : UInt8 → UInt8 → Nat) : Bytes → List Nat
  | first :: second :: rest => unit first second :: units unit rest
  | _ => []

/-- Reads bytes as text, the high byte of a unit in front. -/
def decodeBig (bytes : Bytes) : List Char :=
  decodeUnits (bytes.length % 2 = 1) (units (fun high low => high.toNat * 256 + low.toNat) bytes)

/-- Reads bytes as text, the low byte of a unit in front. -/
def decodeLittle (bytes : Bytes) : List Char :=
  decodeUnits (bytes.length % 2 = 1) (units (fun low high => high.toNat * 256 + low.toNat) bytes)

/-- A letter, and a character that takes a pair of units. -/
example : decodeLittle [0x41, 0x00, 0x3D, 0xD8, 0x00, 0xDE] = ['A', '😀'] := by decide

end QuorumVault.Utf16
