/-
UTF-8.

Text crosses the relay and the vault storage as bytes.  `encode` writes each
character in its one shortest form; `decode` reads exactly those forms and otherwise
says where the text breaks off: after how many bytes the reading was still good, and
how many of the next bytes rule out every character.  Bytes that could still have
become a character are reported as incomplete instead.
-/
namespace QuorumVault

abbrev Bytes := List UInt8

namespace Utf8

/-- Where and how a byte string stops being UTF-8. -/
structure Fault where
  index : Nat
  /-- How many bytes are in the way, or none if the text just ends too early. -/
  length : Option Nat
deriving DecidableEq, Repr

def Fault.message (f : Fault) : String :=
  match f.length with
  | some n => "invalid utf-8 sequence of " ++ toString n ++ " bytes from index " ++ toString f.index
  | none => "incomplete utf-8 byte sequence from index " ++ toString f.index

/-- The bytes of a code point. -/
def encodePoint (n : Nat) : Bytes :=
  if n < 0x80 then [UInt8.ofNat n]
  else if n < 0x800 then [UInt8.ofNat (0xC0 + n / 64), UInt8.ofNat (0x80 + n % 64)]
  else if n < 0x10000 then
    [UInt8.ofNat (0xE0 + n / 4096), UInt8.ofNat (0x80 + n / 64 % 64), UInt8.ofNat (0x80 + n % 64)]
  else
    [UInt8.ofNat (0xF0 + n / 262144), UInt8.ofNat (0x80 + n / 4096 % 64),
      UInt8.ofNat (0x80 + n / 64 % 64), UInt8.ofNat (0x80 + n % 64)]

/-- The bytes of a list of characters. -/
def encodeChars (cs : List Char) : Bytes :=
  cs.flatMap fun c => encodePoint c.toNat

/-- The bytes of a text. -/
def encode (s : String) : Bytes :=
  encodeChars s.toList

/-- The bytes that may continue a character after its second byte. -/
def isTail (b : UInt8) : Bool :=
  0x80 ≤ b.toNat && b.toNat ≤ 0xBF

/-- The bytes that may follow a first byte of a character of three or four bytes. -/
def isSecond (first second : UInt8) : Bool :=
  let b := second.toNat
  if first.toNat = 0xE0 then 0xA0 ≤ b && b ≤ 0xBF
  else if first.toNat = 0xED then 0x80 ≤ b && b ≤ 0x9F
  else if first.toNat = 0xF0 then 0x90 ≤ b && b ≤ 0xBF
  else if first.toNat = 0xF4 then 0x80 ≤ b && b ≤ 0x8F
  else isTail second

/-- How many bytes a character with this first byte has; none for a byte that starts no character. -/
def width (first : UInt8) : Option Nat :=
  let b := first.toNat
  if b < 0x80 then some 1
  else if 0xC2 ≤ b && b ≤ 0xDF then some 2
  else if 0xE0 ≤ b && b ≤ 0xEF then some 3
  else if 0xF0 ≤ b && b ≤ 0xF4 then some 4
  else none

/-- The character of a code point read from two to four bytes. -/
def assemble (first : Nat) (rest : List UInt8) : Char :=
  Char.ofNat (rest.foldl (fun n b => n * 64 + (b.toNat - 0x80)) first)

/-- Reads characters, `index` bytes into the text. -/
def decodeFrom (index : Nat) : Bytes → Except Fault (List Char)
  | [] => .ok []
  | a :: l₁ =>
    match width a with
    | none => .error ⟨index, some 1⟩
    | some 1 => do return Char.ofNat a.toNat :: (← decodeFrom (index + 1) l₁)
    | some 2 =>
      match l₁ with
      | [] => .error ⟨index, none⟩
      | b :: l₂ =>
        if isTail b then do
          return assemble (a.toNat - 0xC0) [b] :: (← decodeFrom (index + 2) l₂)
        else .error ⟨index, some 1⟩
    | some 3 =>
      match l₁ with
      | [] => .error ⟨index, none⟩
      | b :: l₂ =>
        if isSecond a b then
          match l₂ with
          | [] => .error ⟨index, none⟩
          | c :: l₃ =>
            if isTail c then do
              return assemble (a.toNat - 0xE0) [b, c] :: (← decodeFrom (index + 3) l₃)
            else .error ⟨index, some 2⟩
        else .error ⟨index, some 1⟩
    | some _ =>
      match l₁ with
      | [] => .error ⟨index, none⟩
      | b :: l₂ =>
        if isSecond a b then
          match l₂ with
          | [] => .error ⟨index, none⟩
          | c :: l₃ =>
            if isTail c then
              match l₃ with
              | [] => .error ⟨index, none⟩
              | d :: l₄ =>
                if isTail d then do
                  return assemble (a.toNat - 0xF0) [b, c, d] :: (← decodeFrom (index + 4) l₄)
                else .error ⟨index, some 3⟩
            else .error ⟨index, some 2⟩
        else .error ⟨index, some 1⟩

/-- Reads a whole byte string as text. -/
def decode (bytes : Bytes) : Except Fault String :=
  (decodeFrom 0 bytes).map String.ofList

/-- Reads a byte string as text with a replacement character for whatever is none. -/
def decodeLossy (bytes : Bytes) : List Char :=
  match decodeFrom 0 bytes with
  | .ok cs => cs
  | .error fault =>
    let before := match decodeFrom 0 (bytes.take fault.index) with
      | .ok cs => cs
      | .error _ => []
    before ++ '\uFFFD' :: match fault.length, bytes with
      | some n, _ :: rest => decodeLossy (rest.drop (fault.index + n - 1))
      | _, _ => []
termination_by bytes.length
decreasing_by
  simp only [List.length_drop, List.length_cons]
  omega

/-! ### Reading undoes writing -/

theorem toNat_byte {n : Nat} (h : n < 256) : (UInt8.ofNat n).toNat = n := by
  rw [UInt8.toNat_ofNat']; exact Nat.mod_eq_of_lt h

theorem isTail_ofNat (n : Nat) : isTail (UInt8.ofNat (0x80 + n % 64)) = true := by
  simp only [isTail, toNat_byte (show 0x80 + n % 64 < 256 by omega), Bool.and_eq_true,
    decide_eq_true_eq]
  omega

/-- Reading a character undoes writing it. -/
theorem decodeFrom_encodePoint (index : Nat) (c : Char) (rest : Bytes) :
    decodeFrom index (encodePoint c.toNat ++ rest)
      = (decodeFrom (index + (encodePoint c.toNat).length) rest).map (c :: ·) := by
  have valid : c.toNat < 0xD800 ∨ 0xDFFF < c.toNat ∧ c.toNat < 0x110000 := c.valid
  have back : Char.ofNat c.toNat = c := Char.ofNat_toNat c
  generalize c.toNat = n at valid back
  have tail (k : Nat) : (UInt8.ofNat (0x80 + k % 64)).toNat = 0x80 + k % 64 := toNat_byte (by omega)
  unfold encodePoint
  split
  · rename_i h
    have a : (UInt8.ofNat n).toNat = n := toNat_byte (by omega)
    have w : width (UInt8.ofNat n) = some 1 := by simp [width, a, h]
    rw [List.singleton_append, decodeFrom.eq_def]
    simp only [w, a, back]
    rfl
  split
  · rename_i h₀ h
    have a : (UInt8.ofNat (0xC0 + n / 64)).toNat = 0xC0 + n / 64 := toNat_byte (by omega)
    have w : width (UInt8.ofNat (0xC0 + n / 64)) = some 2 := by
      simp only [width, a]
      rw [if_neg (by omega), if_pos (by simp only [Bool.and_eq_true, decide_eq_true_eq]; omega)]
    have v : assemble (0xC0 + n / 64 - 0xC0) [UInt8.ofNat (0x80 + n % 64)] = c := by
      simp only [assemble, List.foldl_cons, List.foldl_nil, tail]
      exact (congrArg Char.ofNat (by omega)).trans back
    rw [List.cons_append, List.singleton_append, decodeFrom.eq_def]
    simp only [w, isTail_ofNat, a, v]
    rfl
  split
  · rename_i h₀ h₁ h
    have a : (UInt8.ofNat (0xE0 + n / 4096)).toNat = 0xE0 + n / 4096 := toNat_byte (by omega)
    have w : width (UInt8.ofNat (0xE0 + n / 4096)) = some 3 := by
      simp only [width, a]
      rw [if_neg (by omega), if_neg (by simp only [Bool.and_eq_true, decide_eq_true_eq]; omega),
        if_pos (by simp only [Bool.and_eq_true, decide_eq_true_eq]; omega)]
    have s : isSecond (UInt8.ofNat (0xE0 + n / 4096)) (UInt8.ofNat (0x80 + n / 64 % 64)) = true := by
      simp only [isSecond, a, tail, isTail_ofNat]
      grind
    have v : assemble (0xE0 + n / 4096 - 0xE0)
        [UInt8.ofNat (0x80 + n / 64 % 64), UInt8.ofNat (0x80 + n % 64)] = c := by
      simp only [assemble, List.foldl_cons, List.foldl_nil, tail]
      exact (congrArg Char.ofNat (by omega)).trans back
    rw [List.cons_append, List.cons_append, List.singleton_append, decodeFrom.eq_def]
    simp only [w, s, isTail_ofNat, a, v]
    rfl
  · rename_i h₀ h₁ h
    have a : (UInt8.ofNat (0xF0 + n / 262144)).toNat = 0xF0 + n / 262144 := toNat_byte (by omega)
    have w : width (UInt8.ofNat (0xF0 + n / 262144)) = some 4 := by
      simp only [width, a]
      rw [if_neg (by omega), if_neg (by simp only [Bool.and_eq_true, decide_eq_true_eq]; omega),
        if_neg (by simp only [Bool.and_eq_true, decide_eq_true_eq]; omega),
        if_pos (by simp only [Bool.and_eq_true, decide_eq_true_eq]; omega)]
    have s : isSecond (UInt8.ofNat (0xF0 + n / 262144))
        (UInt8.ofNat (0x80 + n / 4096 % 64)) = true := by
      simp only [isSecond, a, tail, isTail_ofNat]
      grind
    have v : assemble (0xF0 + n / 262144 - 0xF0)
        [UInt8.ofNat (0x80 + n / 4096 % 64), UInt8.ofNat (0x80 + n / 64 % 64),
          UInt8.ofNat (0x80 + n % 64)] = c := by
      simp only [assemble, List.foldl_cons, List.foldl_nil, tail]
      exact (congrArg Char.ofNat (by omega)).trans back
    rw [List.cons_append, List.cons_append, List.cons_append, List.singleton_append, decodeFrom.eq_def]
    simp only [w, s, isTail_ofNat, a, v]
    rfl

theorem decodeFrom_encodeChars (index : Nat) (cs : List Char) :
    decodeFrom index (encodeChars cs) = .ok cs := by
  induction cs generalizing index with
  | nil => rfl
  | cons c cs ih =>
    rw [encodeChars, List.flatMap_cons, decodeFrom_encodePoint, ← encodeChars, ih]
    rfl

/-- Reading undoes writing. -/
@[simp] theorem decode_encode (s : String) : decode (encode s) = .ok s := by
  simp [decode, encode, decodeFrom_encodeChars, Except.map]

theorem toNat_ascii : ∀ n < 128, (Char.ofNat n).toNat = n := by
  decide

/-- The bytes of characters with codes of seven bits are these codes. -/
theorem encodeChars_ascii (bytes : Bytes) (small : ∀ b ∈ bytes, b.toNat < 128) :
    encodeChars (bytes.map fun b => Char.ofNat b.toNat) = bytes := by
  induction bytes with
  | nil => rfl
  | cons b rest ih =>
    have hb := small b (by simp)
    have first : encodePoint (Char.ofNat b.toNat).toNat = [b] := by
      simp [toNat_ascii _ hb, encodePoint, hb]
    rw [List.map_cons, encodeChars, List.flatMap_cons, ← encodeChars, first,
      ih fun b hb => small b (by simp [hb])]
    rfl

end Utf8

end QuorumVault
