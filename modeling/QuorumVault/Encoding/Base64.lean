/-
Base64 with the standard alphabet.

Ciphertexts and containers travel as base64.  Every three bytes become four symbols;
a last group of one or two bytes is filled up with `=` to four.  Reading takes
exactly what writing produces: the padding must be there and the bits a last symbol
carries beyond the bytes must be zero, so no two texts stand for the same bytes.

A refused text is blamed on its first wrong byte.  A `=` is wrong unless it stands at
the third or fourth place of the last group with nothing but `=` behind it.  Lengths
that leave a single symbol over are refused first, and then the last byte is blamed
if it is no symbol, because that is most often a line end that was pasted along.
-/
import QuorumVault.Text.Blank
import QuorumVault.Text.Utf8

namespace QuorumVault.Base64

/-- Why a text is not base64. -/
inductive Fault where
  | badByte (byte : UInt8) (index : Nat)
  | loneSymbol
  | strayBits (symbol : UInt8) (index : Nat)
  | badPadding
deriving DecidableEq, Repr

def Fault.message : Fault → String
  | .badByte byte index => "Invalid byte " ++ toString byte.toNat ++ ", offset " ++ toString index ++ "."
  | .loneSymbol => "Encoded text cannot have a 6-bit remainder."
  | .strayBits symbol index =>
    "Invalid last symbol " ++ toString symbol.toNat ++ ", offset " ++ toString index ++ "."
  | .badPadding => "Invalid padding"

/-- The code of `=`. -/
def pad : UInt8 := 61

/-- The symbol of a number below 64. -/
def symbol (n : Nat) : UInt8 :=
  if n < 26 then UInt8.ofNat (65 + n)
  else if n < 52 then UInt8.ofNat (71 + n)
  else if n < 62 then UInt8.ofNat (n - 4)
  else if n = 62 then 43
  else 47

/-- The number a symbol stands for. -/
def symbolValue (byte : UInt8) : Option Nat :=
  let n := byte.toNat
  if 65 ≤ n ∧ n ≤ 90 then some (n - 65)
  else if 97 ≤ n ∧ n ≤ 122 then some (n - 71)
  else if 48 ≤ n ∧ n ≤ 57 then some (n + 4)
  else if n = 43 then some 62
  else if n = 47 then some 63
  else none

def encodeBytes : Bytes → Bytes
  | [] => []
  | [a] => [symbol (a.toNat / 4), symbol (a.toNat % 4 * 16), pad, pad]
  | [a, b] =>
    [symbol (a.toNat / 4), symbol (a.toNat % 4 * 16 + b.toNat / 16), symbol (b.toNat % 16 * 4), pad]
  | a :: b :: c :: rest =>
    symbol (a.toNat / 4) :: symbol (a.toNat % 4 * 16 + b.toNat / 16)
      :: symbol (b.toNat % 16 * 4 + c.toNat / 64) :: symbol (c.toNat % 64) :: encodeBytes rest

def encode (bytes : Bytes) : String :=
  String.ofList ((encodeBytes bytes).map fun b => Char.ofNat b.toNat)

/-- The bytes that symbol values stand for, together with the bits left over. -/
def unpack : List Nat → Bytes × Nat
  | [] => ([], 0)
  | [_] => ([], 0)
  | [a, b] => ([UInt8.ofNat (a * 4 + b / 16)], b % 16)
  | [a, b, c] => ([UInt8.ofNat (a * 4 + b / 16), UInt8.ofNat (b % 16 * 16 + c / 4)], c % 4)
  | a :: b :: c :: d :: rest =>
    let (bytes, left) := unpack rest
    (UInt8.ofNat (a * 4 + b / 16) :: UInt8.ofNat (b % 16 * 16 + c / 4)
      :: UInt8.ofNat (c % 4 * 64 + d) :: bytes, left)

/-- The values of the symbols in front, and what follows them. -/
def symbols : Bytes → List Nat × Bytes
  | [] => ([], [])
  | b :: rest =>
    match symbolValue b with
    | some v => let (values, tail) := symbols rest; (v :: values, tail)
    | none => ([], b :: rest)

/-- What is wrong with the bytes behind `count` symbols; they are fine if they fill up the last
group, and that they fill it to the end is checked apart. -/
def tailFault (count : Nat) : Bytes → Option Fault
  | [] => none
  | b :: rest =>
    if b = pad ∧ 2 ≤ count % 4 ∧ rest.all (· == pad) ∧ count % 4 + 1 + rest.length ≤ 4 then none
    else some (.badByte b count)

def decodeBytes (input : Bytes) : Except Fault Bytes :=
  if input.length % 4 = 1 then
    match input.getLast? with
    | some b =>
      if b ≠ pad ∧ symbolValue b = none then .error (.badByte b (input.length - 1))
      else .error .loneSymbol
    | none => .error .loneSymbol
  else
    let (values, tail) := symbols input
    match tailFault values.length tail with
    | some fault => .error fault
    | none =>
      if input.length % 4 ≠ 0 then .error .badPadding
      else
        let (bytes, left) := unpack values
        if left = 0 then .ok bytes
        else .error (.strayBits (input.getD (values.length - 1) 0) (values.length - 1))

def decode (text : String) : Except Fault Bytes :=
  decodeBytes (Utf8.encode text)

/-! ### Reading undoes writing -/

theorem symbolValue_symbol : ∀ {n : Nat}, n < 64 → symbolValue (symbol n) = some n := by
  decide

theorem symbols_cons {n : Nat} (h : n < 64) (rest : Bytes) :
    symbols (symbol n :: rest) = (n :: (symbols rest).1, (symbols rest).2) := by
  simp [symbols, symbolValue_symbol h]

theorem symbols_pad (rest : Bytes) : symbols (pad :: rest) = ([], pad :: rest) := rfl

theorem ofNat_eq {n : Nat} {b : UInt8} (h : n = b.toNat) : UInt8.ofNat n = b := by
  rw [h, UInt8.ofNat_toNat]

/-- What was written consists of whole groups, reads as the bytes and leaves only padding. -/
theorem symbols_encodeBytes (bytes : Bytes) :
    (encodeBytes bytes).length % 4 = 0 ∧ unpack (symbols (encodeBytes bytes)).1 = (bytes, 0)
      ∧ tailFault (symbols (encodeBytes bytes)).1.length (symbols (encodeBytes bytes)).2 = none := by
  fun_induction encodeBytes bytes with
  | case1 => exact ⟨rfl, rfl, rfl⟩
  | case2 a =>
    have ha := a.toNat_lt
    rw [symbols_cons (by omega), symbols_cons (by omega), symbols_pad]
    refine ⟨by simp, ?_, rfl⟩
    simp only [unpack]
    rw [ofNat_eq (b := a) (by omega)]
    congr 1; omega
  | case3 a b =>
    have ha := a.toNat_lt
    have hb := b.toNat_lt
    rw [symbols_cons (by omega), symbols_cons (by omega), symbols_cons (by omega), symbols_pad]
    refine ⟨by simp, ?_, rfl⟩
    simp only [unpack]
    rw [ofNat_eq (b := a) (by omega), ofNat_eq (b := b) (by omega)]
    congr 1; omega
  | case4 a b c rest ih =>
    have ha := a.toNat_lt
    have hb := b.toNat_lt
    have hc := c.toNat_lt
    obtain ⟨length, value, tail⟩ := ih
    rw [symbols_cons (by omega), symbols_cons (by omega), symbols_cons (by omega),
      symbols_cons (by omega)]
    refine ⟨by simp only [List.length_cons]; omega, ?_, ?_⟩
    · simp only [unpack, value]
      rw [ofNat_eq (b := a) (by omega), ofNat_eq (b := b) (by omega), ofNat_eq (b := c) (by omega)]
    · simp only [List.length_cons]
      revert tail
      unfold tailFault
      split
      · simp
      · intro tail
        rw [ite_eq_left_iff] at tail
        rw [if_pos]
        have := Decidable.not_not.1 fun h => by simpa using tail h
        rw [show (symbols (encodeBytes rest)).1.length + 1 + 1 + 1 + 1
            = (symbols (encodeBytes rest)).1.length + 4 by omega, Nat.add_mod_right]
        exact this

/-- Reading undoes writing. -/
theorem decodeBytes_encodeBytes (bytes : Bytes) : decodeBytes (encodeBytes bytes) = .ok bytes := by
  obtain ⟨length, value, tail⟩ := symbols_encodeBytes bytes
  unfold decodeBytes
  rw [if_neg (by omega)]
  simp [tail, length, value]

/-- Nothing but symbols and padding is written. -/
theorem eq_symbol_of_mem_encodeBytes {bytes : Bytes} {s : UInt8} (h : s ∈ encodeBytes bytes) :
    s = pad ∨ ∃ n < 64, s = symbol n := by
  fun_induction encodeBytes bytes with
  | case1 => simp at h
  | case2 a =>
    have ha := a.toNat_lt
    simp only [List.mem_cons, List.not_mem_nil, or_false, or_self] at h
    obtain h | h | h := h
    · exact .inr ⟨_, by omega, h⟩
    · exact .inr ⟨_, by omega, h⟩
    · exact .inl h
  | case3 a b =>
    have ha := a.toNat_lt
    have hb := b.toNat_lt
    simp only [List.mem_cons, List.not_mem_nil, or_false] at h
    obtain h | h | h | h := h
    · exact .inr ⟨_, by omega, h⟩
    · exact .inr ⟨_, by omega, h⟩
    · exact .inr ⟨_, by omega, h⟩
    · exact .inl h
  | case4 a b c rest ih =>
    have ha := a.toNat_lt
    have hb := b.toNat_lt
    have hc := c.toNat_lt
    simp only [List.mem_cons] at h
    obtain h | h | h | h | h := h
    · exact .inr ⟨_, by omega, h⟩
    · exact .inr ⟨_, by omega, h⟩
    · exact .inr ⟨_, by omega, h⟩
    · exact .inr ⟨_, by omega, h⟩
    · exact ih h

theorem symbol_lt : ∀ n < 64, (symbol n).toNat < 128 := by
  decide

theorem isBlank_symbol : ∀ n < 64, Text.isBlank (Char.ofNat (symbol n).toNat) = false := by
  decide

/-- The bytes of what was written are its symbols. -/
theorem bytes_encode (bytes : Bytes) : Utf8.encode (encode bytes) = encodeBytes bytes := by
  rw [encode, Utf8.encode, String.toList_ofList, Utf8.encodeChars_ascii]
  intro s hs
  obtain rfl | ⟨n, hn, rfl⟩ := eq_symbol_of_mem_encodeBytes hs
  · decide
  · exact symbol_lt n hn

/-- There is no white space in what was written. -/
theorem isBlank_of_mem_encode {bytes : Bytes} {c : Char} (hc : c ∈ (encode bytes).toList) :
    Text.isBlank c = false := by
  rw [encode, String.toList_ofList, List.mem_map] at hc
  obtain ⟨s, hs, rfl⟩ := hc
  obtain rfl | ⟨n, hn, rfl⟩ := eq_symbol_of_mem_encodeBytes hs
  · decide
  · exact isBlank_symbol n hn

@[simp] theorem trim_encode (bytes : Bytes) : Text.trim (encode bytes) = encode bytes :=
  Text.trim_eq_self fun _ => isBlank_of_mem_encode

/-- Reading undoes writing. -/
@[simp] theorem decode_encode (bytes : Bytes) : decode (encode bytes) = .ok bytes := by
  rw [decode, bytes_encode, decodeBytes_encodeBytes]

end QuorumVault.Base64
