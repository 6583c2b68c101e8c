/-
Hexadecimal text.

Keys, digests and messages to sign are handed around as hexadecimal.  Writing uses
small letters; reading takes both.  Reading works on the bytes of the text: an odd
number of them is refused before any digit is looked at, and a byte that is no digit
is reported by its position and as the character of that code.
-/
import QuorumVault.Text.Blank
import QuorumVault.Text.Quoted
import QuorumVault.Text.Utf8

namespace QuorumVault.Hex

/-- Why a text is not hexadecimal. -/
inductive Fault where
  | oddLength
  | badDigit (byte : UInt8) (index : Nat)
deriving DecidableEq, Repr

def Fault.message : Fault → String
  | .oddLength => "Odd number of digits"
  | .badDigit byte index =>
    "Invalid character " ++ Text.quoteChar (Char.ofNat byte.toNat) ++ " at position " ++ toString index

/-- The digit of a number below sixteen. -/
def digit (n : Nat) : Char :=
  if n < 10 then Char.ofNat (48 + n) else Char.ofNat (87 + n)

/-- The number a digit stands for, in either case of letter. -/
def digitValue (byte : UInt8) : Option Nat :=
  let n := byte.toNat
  if 48 ≤ n ∧ n ≤ 57 then some (n - 48)
  else if 65 ≤ n ∧ n ≤ 70 then some (n - 55)
  else if 97 ≤ n ∧ n ≤ 102 then some (n - 87)
  else none

/-- The two digits of a byte, the high one first. -/
def digitsOf (byte : UInt8) : List Char :=
  [digit (byte.toNat / 16), digit (byte.toNat % 16)]

def encode (bytes : Bytes) : String :=
  String.ofList (bytes.flatMap digitsOf)

/-- The value of the digit at an index. -/
def valueAt (byte : UInt8) (index : Nat) : Except Fault Nat :=
  match digitValue byte with
  | some n => .ok n
  | none => .error (.badDigit byte index)

/-- Reads pairs of digits, the first of them at the given index. -/
def decodePairs (index : Nat) : Bytes → Except Fault Bytes
  | [] => .ok []
  | [_] => .error .oddLength
  | high :: low :: rest => do
    let h ← valueAt high index
    let l ← valueAt low (index + 1)
    return UInt8.ofNat (16 * h + l) :: (← decodePairs (index + 2) rest)

/-- Reads bytes as hexadecimal digits. -/
def decodeBytes (digits : Bytes) : Except Fault Bytes :=
  if digits.length % 2 = 1 then .error .oddLength else decodePairs 0 digits

/-- Reads a text as hexadecimal digits. -/
def decode (text : String) : Except Fault Bytes :=
  decodeBytes (Utf8.encode text)

/-! ### Reading undoes writing -/

/-- A digit is one byte, which has the digit's value. -/
theorem digit_byte : ∀ n < 16,
    ∃ b, Utf8.encodePoint (digit n).toNat = [b] ∧ digitValue b = some n := by
  intro n h
  refine ⟨UInt8.ofNat (digit n).toNat, ?_⟩
  revert n
  decide

theorem encodeChars_digitsOf (b : UInt8) : ∃ h l,
    Utf8.encodeChars (digitsOf b) = [h, l] ∧ digitValue h = some (b.toNat / 16)
      ∧ digitValue l = some (b.toNat % 16) := by
  obtain ⟨h, eh, vh⟩ := digit_byte (b.toNat / 16) (by have := b.toNat_lt; omega)
  obtain ⟨l, el, vl⟩ := digit_byte (b.toNat % 16) (by omega)
  exact ⟨h, l, by simp [Utf8.encodeChars, digitsOf, eh, el], vh, vl⟩

theorem decodePairs_digits (index : Nat) (bytes : Bytes) :
    decodePairs index (Utf8.encodeChars (bytes.flatMap digitsOf)) = .ok bytes
      ∧ (Utf8.encodeChars (bytes.flatMap digitsOf)).length = 2 * bytes.length := by
  induction bytes generalizing index with
  | nil => exact ⟨rfl, rfl⟩
  | cons b rest ih =>
    obtain ⟨h, l, e, vh, vl⟩ := encodeChars_digitsOf b
    have split : Utf8.encodeChars ((b :: rest).flatMap digitsOf)
        = h :: l :: Utf8.encodeChars (rest.flatMap digitsOf) := by
      simp only [Utf8.encodeChars, List.flatMap_cons, List.flatMap_append] at e ⊢
      rw [e]
      rfl
    have whole : UInt8.ofNat (16 * (b.toNat / 16) + b.toNat % 16) = b := by
      rw [Nat.div_add_mod, UInt8.ofNat_toNat]
    rw [split]
    constructor
    · simp [decodePairs, valueAt, vh, vl, (ih (index + 2)).1, whole, bind, Except.bind, pure,
        Except.pure]
    · rw [List.length_cons, List.length_cons, (ih 0).2, List.length_cons]
      omega

/-- Reading undoes writing. -/
@[simp] theorem decode_encode (bytes : Bytes) : decode (encode bytes) = .ok bytes := by
  obtain ⟨value, length⟩ := decodePairs_digits 0 bytes
  simp [decode, encode, Utf8.encode, decodeBytes, length, value]

/-! ### What is written -/

/-- There is nothing but digits in what was written. -/
theorem exists_digit_of_mem_encode {bytes : Bytes} {c : Char} (h : c ∈ (encode bytes).toList) :
    ∃ n < 16, c = digit n := by
  rw [encode, String.toList_ofList] at h
  obtain ⟨b, -, h⟩ := List.mem_flatMap.1 h
  have lt := b.toNat_lt
  rcases List.mem_cons.1 h with h | h
  · exact ⟨_, by omega, h⟩
  · exact ⟨_, by omega, List.mem_singleton.1 h⟩

theorem isBlank_digit : ∀ n < 16, Text.isBlank (digit n) = false := by
  decide

/-- There is no white space in what was written. -/
@[simp] theorem trim_encode (bytes : Bytes) : Text.trim (encode bytes) = encode bytes := by
  refine Text.trim_eq_self fun c hc => ?_
  obtain ⟨n, hn, rfl⟩ := exists_digit_of_mem_encode hc
  exact isBlank_digit n hn

end QuorumVault.Hex
