/-
Which texts are base64.

Reading takes what writing produces and nothing else, so no two texts stand for the same bytes.  Said
without either of them, these are the texts of whole groups of four symbols, of which the last one may be
filled up and then carries no bits beyond its bytes.
-/
import QuorumVault.Encoding.Base64

namespace QuorumVault.Base64

/-- The symbols, in the order of the numbers that they stand for. -/
def alphabet : List Char :=
  "ABCDEFGHIJKLMNOPQRSTUVWXYZabcdefghijklmnopqrstuvwxyz0123456789+/".toList

/-- A character is the symbol of a number. -/
def Stands (c : Char) (n : Nat) : Prop :=
  alphabet[n]? = some c

/-- A text of whole groups.  The last one may be filled up if what its last symbol carries beyond the
bytes is zero. -/
inductive Canonical : List Char → Prop
  | empty : Canonical []
  | one {c d : Char} {a b : Nat} (hc : Stands c a) (hd : Stands d b) (clear : b % 16 = 0) :
      Canonical [c, d, '=', '=']
  | two {c d e : Char} {x y z : Nat} (hc : Stands c x) (hd : Stands d y) (he : Stands e z)
      (clear : z % 4 = 0) : Canonical [c, d, e, '=']
  | three {c d e f : Char} {w x y z : Nat} {rest : List Char} (hc : Stands c w) (hd : Stands d x)
      (he : Stands e y) (hf : Stands f z) (more : Canonical rest) :
      Canonical (c :: d :: e :: f :: rest)

theorem stands_symbol : ∀ n < 64, Stands (Char.ofNat (symbol n).toNat) n := by
  unfold Stands
  decide

theorem stands_iff {c : Char} {n : Nat} : Stands c n ↔ n < 64 ∧ c = Char.ofNat (symbol n).toNat := by
  constructor
  · intro stands
    have lt : n < 64 := (List.getElem?_eq_some_iff.1 stands).1
    exact ⟨lt, Option.some.inj (stands.symm.trans (stands_symbol n lt))⟩
  · rintro ⟨lt, rfl⟩
    exact stands_symbol n lt

/-! ### Reading takes what is written -/

theorem symbol_of_symbolValue {b : UInt8} {n : Nat} (h : symbolValue b = some n) :
    n < 64 ∧ symbol n = b := by
  have all : ∀ k < 256, ∀ n ∈ symbolValue (UInt8.ofNat k), n < 64 ∧ symbol n = UInt8.ofNat k := by
    decide +kernel
  have lt := b.toNat_lt
  have this := all b.toNat (by omega) n (by rw [UInt8.ofNat_toNat]; exact h)
  rwa [UInt8.ofNat_toNat] at this

/-- What is read is the symbols of the values and what is left. -/
theorem map_symbols (input : Bytes) :
    input = (symbols input).1.map symbol ++ (symbols input).2 ∧ ∀ n ∈ (symbols input).1, n < 64 := by
  induction input with
  | nil => exact ⟨rfl, List.forall_mem_nil _⟩
  | cons b rest ih =>
      cases value : symbolValue b with
      | none =>
          have left : symbols (b :: rest) = ([], b :: rest) := by simp [symbols, value]
          rw [left]
          exact ⟨rfl, List.forall_mem_nil _⟩
      | some n =>
          obtain ⟨lt, same⟩ := symbol_of_symbolValue value
          have more : symbols (b :: rest) = (n :: (symbols rest).1, (symbols rest).2) := by
            simp [symbols, value]
          rw [more]
          refine ⟨?_, List.forall_mem_cons.2 ⟨lt, ih.2⟩⟩
          rw [List.map_cons, List.cons_append, ← ih.1, same]

/-- What has to stand behind so many symbols. -/
def filling (count : Nat) : Nat :=
  (4 - count % 4) % 4

/-- What fills up a group without fault is padding, and no symbol stands alone in the group. -/
theorem eq_replicate_of_tailFault {count : Nat} {tail : Bytes} (fine : tailFault count tail = none)
    (whole : (count + tail.length) % 4 = 0) :
    tail = List.replicate (filling count) pad ∧ count % 4 ≠ 1 := by
  unfold filling
  cases tail with
  | nil =>
      rw [List.length_nil] at whole
      rw [show (4 - count % 4) % 4 = 0 by omega]
      exact ⟨rfl, by omega⟩
  | cons b rest =>
      rw [tailFault] at fine
      split at fine
      · next fits =>
          obtain ⟨rfl, two, pads, four⟩ := fits
          rw [List.length_cons] at whole
          have length : (4 - count % 4) % 4 = rest.length + 1 := by omega
          have same : rest = List.replicate rest.length pad :=
            List.eq_replicate_iff.2 ⟨rfl, by simpa using pads⟩
          rw [length, List.replicate_succ, ← same]
          exact ⟨rfl, by omega⟩
      · cases fine

theorem toNat_firstByte {a b : Nat} (ha : a < 64) (hb : b < 64) :
    (UInt8.ofNat (a * 4 + b / 16)).toNat = a * 4 + b / 16 :=
  Utf8.toNat_byte (by omega)

theorem toNat_secondByte {b c : Nat} (hc : c < 64) :
    (UInt8.ofNat (b % 16 * 16 + c / 4)).toNat = b % 16 * 16 + c / 4 :=
  Utf8.toNat_byte (by omega)

/-- Values of which no bit is left over are written again as their symbols. -/
theorem encodeBytes_unpack : ∀ {values : List Nat}, (∀ n ∈ values, n < 64) → values.length % 4 ≠ 1 →
    (unpack values).2 = 0 → encodeBytes (unpack values).1 =
      values.map symbol ++ List.replicate (filling values.length) pad
  | [], _, _, _ => rfl
  | [_], _, lone, _ => absurd rfl lone
  | [a, b], small, _, clear => by
      simp only [List.forall_mem_cons] at small
      obtain ⟨ha, hb, -⟩ := small
      have clear : b % 16 = 0 := clear
      simp only [unpack, encodeBytes, toNat_firstByte ha hb]
      rw [show (a * 4 + b / 16) / 4 = a by omega, show (a * 4 + b / 16) % 4 * 16 = b by omega]
      rfl
  | [a, b, c], small, _, clear => by
      simp only [List.forall_mem_cons] at small
      obtain ⟨ha, hb, hc, -⟩ := small
      have clear : c % 4 = 0 := clear
      simp only [unpack, encodeBytes, toNat_firstByte ha hb, toNat_secondByte hc]
      rw [show (a * 4 + b / 16) / 4 = a by omega,
        show (a * 4 + b / 16) % 4 * 16 + (b % 16 * 16 + c / 4) / 16 = b by omega,
        show (b % 16 * 16 + c / 4) % 16 * 4 = c by omega]
      rfl
  | a :: b :: c :: d :: rest, small, lone, clear => by
      simp only [List.forall_mem_cons] at small
      obtain ⟨ha, hb, hc, hd, small⟩ := small
      have last : (UInt8.ofNat (c % 4 * 64 + d)).toNat = c % 4 * 64 + d := Utf8.toNat_byte (by omega)
      have length : filling (a :: b :: c :: d :: rest).length = filling rest.length := by
        simp only [filling, List.length_cons]
        omega
      have more := encodeBytes_unpack small (by simp only [List.length_cons] at lone; omega) clear
      rw [length]
      simp only [unpack, encodeBytes, toNat_firstByte ha hb, toNat_secondByte hc, last, more]
      rw [show (a * 4 + b / 16) / 4 = a by omega,
        show (a * 4 + b / 16) % 4 * 16 + (b % 16 * 16 + c / 4) / 16 = b by omega,
        show (b % 16 * 16 + c / 4) % 16 * 4 + (c % 4 * 64 + d) / 64 = c by omega,
        show (c % 4 * 64 + d) % 64 = d by omega]
      rfl

/-- What is read as bytes is what is written for them. -/
theorem eq_encodeBytes_of_decodeBytes {input bytes : Bytes} (read : decodeBytes input = .ok bytes) :
    input = encodeBytes bytes := by
  obtain ⟨parts, small⟩ := map_symbols input
  have length := congrArg List.length parts
  rw [List.length_append, List.length_map] at length
  unfold decodeBytes at read
  -- Every test on the way has come out well, or nothing would have been read.
  by_cases lone : input.length % 4 = 1
  · rw [if_pos lone] at read
    split at read
    · split at read <;> cases read
    · cases read
  rw [if_neg lone] at read
  cases fine : tailFault (symbols input).1.length (symbols input).2 with
  | some fault =>
      simp only [fine] at read
      cases read
  | none =>
      simp only [fine] at read
      by_cases whole : input.length % 4 = 0
      case neg =>
        rw [if_pos whole] at read
        cases read
      rw [if_neg (not_not_intro whole)] at read
      by_cases clear : (unpack (symbols input).1).2 = 0
      case neg =>
        rw [if_neg clear] at read
        cases read
      rw [if_pos clear] at read
      cases read
      obtain ⟨tail, lone⟩ := eq_replicate_of_tailFault fine (by omega)
      rw [encodeBytes_unpack small lone clear, ← tail, ← parts]

/-- A text is read as bytes exactly if it is what is written for them. -/
theorem decode_eq_ok_iff {text : String} {bytes : Bytes} :
    decode text = .ok bytes ↔ text = encode bytes := by
  constructor
  · intro read
    have same := eq_encodeBytes_of_decodeBytes read
    rw [← bytes_encode] at same
    have texts := congrArg Utf8.decode same
    rw [Utf8.decode_encode, Utf8.decode_encode] at texts
    exact Except.ok.inj texts
  · rintro rfl
    exact decode_encode bytes

/-! ### What is written is canonical -/

theorem canonical_encodeBytes (bytes : Bytes) :
    Canonical ((encodeBytes bytes).map fun b => Char.ofNat b.toNat) := by
  have stands {n : Nat} (lt : n < 64) : Stands (Char.ofNat (symbol n).toNat) n := stands_symbol n lt
  fun_induction encodeBytes bytes with
  | case1 => exact .empty
  | case2 a =>
    have ha := a.toNat_lt
    exact .one (stands (by omega)) (stands (by omega)) (by omega)
  | case3 a b =>
    have ha := a.toNat_lt
    have hb := b.toNat_lt
    exact .two (stands (by omega)) (stands (by omega)) (stands (by omega)) (by omega)
  | case4 a b c rest ih =>
    have ha := a.toNat_lt
    have hb := b.toNat_lt
    have hc := c.toNat_lt
    exact .three (stands (by omega)) (stands (by omega)) (stands (by omega)) (stands (by omega)) ih

theorem exists_unpacked {cs : List Char} (canonical : Canonical cs) : ∃ values : List Nat,
    (∀ n ∈ values, n < 64) ∧ values.length % 4 ≠ 1 ∧ (unpack values).2 = 0 ∧
      cs = (values.map symbol ++ List.replicate (filling values.length) pad).map
        fun b => Char.ofNat b.toNat := by
  induction canonical with
  | empty => exact ⟨[], nofun, nofun, rfl, rfl⟩
  | @one c d a b hc hd clear =>
      obtain ⟨ha, rfl⟩ := stands_iff.1 hc
      obtain ⟨hb, rfl⟩ := stands_iff.1 hd
      exact ⟨[a, b], by simp [ha, hb], nofun, clear, rfl⟩
  | @two c d e x y z hc hd he clear =>
      obtain ⟨hx, rfl⟩ := stands_iff.1 hc
      obtain ⟨hy, rfl⟩ := stands_iff.1 hd
      obtain ⟨hz, rfl⟩ := stands_iff.1 he
      exact ⟨[x, y, z], by simp [hx, hy, hz], nofun, clear, rfl⟩
  | @three c d e f w x y z rest hc hd he hf more ih =>
      obtain ⟨hw, rfl⟩ := stands_iff.1 hc
      obtain ⟨hx, rfl⟩ := stands_iff.1 hd
      obtain ⟨hy, rfl⟩ := stands_iff.1 he
      obtain ⟨hz, rfl⟩ := stands_iff.1 hf
      obtain ⟨values, small, lone, clear, rfl⟩ := ih
      have length : filling (w :: x :: y :: z :: values).length = filling values.length := by
        simp only [filling, List.length_cons]
        omega
      refine ⟨w :: x :: y :: z :: values, by simpa [hw, hx, hy, hz] using small, ?_, clear, ?_⟩
      · simp only [List.length_cons]
        omega
      · rw [length]
        rfl

/-- The canonical texts are those that can be read. -/
theorem exists_decode_iff {text : String} :
    (∃ bytes, decode text = .ok bytes) ↔ Canonical text.toList := by
  constructor
  · rintro ⟨bytes, read⟩
    rw [decode_eq_ok_iff.1 read, encode, String.toList_ofList]
    exact canonical_encodeBytes bytes
  · intro canonical
    obtain ⟨values, small, lone, clear, same⟩ := exists_unpacked canonical
    refine ⟨(unpack values).1, decode_eq_ok_iff.2 ?_⟩
    rw [← String.toList_inj, same, encode, String.toList_ofList, encodeBytes_unpack small lone clear]

end QuorumVault.Base64
