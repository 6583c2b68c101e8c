/-
Integers in the distinguished encoding.

An integer is written in two's complement, the high byte in front, with no byte that its sign does not
need.  That leaves one way to write it, which is the shortest one, and a reader that insists on it takes
exactly what is written for two integers and reads the same two.
-/
import QuorumVault.Encoding.Integers
import QuorumVault.Signature

namespace QuorumVault

namespace Bytes

variable {bytes : Bytes}

theorem ofLittleEndian_littleEndian (bytes : Bytes) :
    ofLittleEndian bytes.length (littleEndian bytes) = bytes := by
  induction bytes with
  | nil => rfl
  | cons b rest ih =>
      have lt := b.toNat_lt
      have low : UInt8.ofNat (b.toNat + 256 * littleEndian rest) = b := by
        apply UInt8.toNat_inj.1
        rw [UInt8.toNat_ofNat']
        omega
      have high : (b.toNat + 256 * littleEndian rest) / 256 = littleEndian rest := by omega
      show UInt8.ofNat (b.toNat + 256 * littleEndian rest) ::
        ofLittleEndian rest.length ((b.toNat + 256 * littleEndian rest) / 256) = _
      rw [low, high, ih]

theorem ofBigEndian_bigEndian (bytes : Bytes) : ofBigEndian bytes.length (bigEndian bytes) = bytes := by
  have back := ofLittleEndian_littleEndian bytes.reverse
  rw [List.length_reverse] at back
  rw [ofBigEndian, bigEndian_eq_littleEndian, back, List.reverse_reverse]

theorem littleEndian_lt (bytes : Bytes) : littleEndian bytes < 256 ^ bytes.length := by
  rw [← ofLittleEndian_littleEndian bytes, littleEndian_ofLittleEndian, length_ofLittleEndian]
  exact Nat.mod_lt _ (Nat.pow_pos (by decide))

theorem bigEndian_lt (bytes : Bytes) : bigEndian bytes < 256 ^ bytes.length := by
  rw [bigEndian_eq_littleEndian, ← List.length_reverse]
  exact littleEndian_lt _

theorem foldl_eq (n : Nat) (bytes : Bytes) :
    bytes.foldl (fun n b => n * 256 + b.toNat) n = n * 256 ^ bytes.length + bigEndian bytes := by
  unfold bigEndian
  induction bytes generalizing n with
  | nil => simp
  | cons b rest ih =>
      rw [List.foldl_cons, List.foldl_cons, ih (n * 256 + b.toNat), ih (0 * 256 + b.toNat),
        List.length_cons, Nat.pow_succ, Nat.add_mul, Nat.mul_assoc, Nat.mul_comm 256, Nat.zero_mul,
        Nat.zero_add, Nat.add_assoc]

theorem bigEndian_cons (b : UInt8) (rest : Bytes) :
    bigEndian (b :: rest) = b.toNat * 256 ^ rest.length + bigEndian rest := by
  rw [← foldl_eq, bigEndian, List.foldl_cons, Nat.zero_mul, Nat.zero_add]

theorem bigEndian_cons_cons (b c : UInt8) (rest : Bytes) : bigEndian (b :: c :: rest) =
    (b.toNat * 256 + c.toNat) * 256 ^ rest.length + bigEndian rest := by
  rw [bigEndian_cons, bigEndian_cons, List.length_cons, Nat.pow_succ, Nat.add_mul, Nat.mul_assoc,
    Nat.mul_comm 256, Nat.add_assoc]

end Bytes

namespace Der

open Signature (derInteger der)

/-! ### What is written -/

/-- The number of two's complement whose high byte stands in front. -/
def signed : Bytes → Int
  | [] => 0
  | first :: rest =>
    let n : Int := Bytes.bigEndian (first :: rest)
    if first.toNat < 128 then n else n - (256 ^ (rest.length + 1) : Nat)

/-- There is a byte, and the first one says more than the sign of the others. -/
def Strict : Bytes → Prop
  | [] => False
  | [_] => True
  | first :: second :: _ =>
    ¬(first.toNat = 0 ∧ second.toNat < 128) ∧ ¬(first.toNat = 255 ∧ 128 ≤ second.toNat)

instance : DecidablePred Strict
  | [] => inferInstanceAs (Decidable False)
  | [_] => inferInstanceAs (Decidable True)
  | first :: second :: _ =>
    inferInstanceAs (Decidable (¬(first.toNat = 0 ∧ second.toNat < 128) ∧
      ¬(first.toNat = 255 ∧ 128 ≤ second.toNat)))

/-- How many bytes an integer is written in. -/
def width (n : Nat) : Nat :=
  let length := n.log2 / 8 + 1
  if n.testBit (8 * length - 1) then length + 1 else length

/-- The bytes an integer is written in. -/
def content (n : Nat) : Bytes :=
  Bytes.ofBigEndian (width n) n

/-- A thing that is written: its tag, how long it is and its content. -/
def element (tag : UInt8) (content : Bytes) : Bytes :=
  tag :: UInt8.ofNat content.length :: content

theorem derInteger_eq (n : Nat) : derInteger n = element 0x02 (content n) := by
  unfold element content
  rw [Bytes.length_ofBigEndian]
  rfl

theorem der_eq (r s : Nat) :
    der r s = element 0x30 (element 0x02 (content r) ++ element 0x02 (content s)) := by
  rw [← derInteger_eq, ← derInteger_eq]
  rfl

/-! ### How long integers are -/

/-- A number takes so many bytes and no fewer, if its highest bit is to be clear. -/
structure Takes (n k : Nat) : Prop where
  pos : 0 < k
  fits : n < 128 * 256 ^ (k - 1)
  needs : k = 1 ∨ 128 * 256 ^ (k - 2) ≤ n

theorem Takes.le {n k k' : Nat} (takes : Takes n k) (pos : 0 < k')
    (fits : n < 128 * 256 ^ (k' - 1)) : k ≤ k' := by
  rcases takes.needs with one | needs
  · omega
  · refine Nat.le_of_not_lt fun less => ?_
    have grows : 128 * 256 ^ (k' - 1) ≤ 128 * 256 ^ (k - 2) :=
      Nat.mul_le_mul_left _ (Nat.pow_le_pow_right (by decide) (by omega))
    omega

theorem Takes.unique {n k k' : Nat} (takes : Takes n k) (takes' : Takes n k') : k = k' :=
  Nat.le_antisymm (takes.le takes'.pos takes'.fits) (takes'.le takes.pos takes.fits)

theorem bits_eq (k : Nat) : 128 * 256 ^ k = 2 ^ (8 * k + 7) := by
  rw [show (256 : Nat) = 2 ^ 8 by rfl, ← Nat.pow_mul, show (128 : Nat) = 2 ^ 7 by rfl, ← Nat.pow_add]
  congr 1
  omega

theorem takes_width (n : Nat) : Takes n (width n) := by
  unfold width
  dsimp only
  -- The byte of the highest bit that is set; the question is whether it is the first bit of that byte.
  have below : n < 2 ^ (n.log2 + 1) := Nat.lt_log2_self
  have last : 8 * (n.log2 / 8 + 1) - 1 = 8 * (n.log2 / 8) + 7 := by omega
  rw [last]
  by_cases set : n.testBit (8 * (n.log2 / 8) + 7) = true
  · rw [if_pos set]
    refine ⟨by omega, ?_, .inr ?_⟩
    · rw [show n.log2 / 8 + 1 + 1 - 1 = n.log2 / 8 + 1 by omega, bits_eq]
      exact Nat.lt_of_lt_of_le below (Nat.pow_le_pow_right (by decide) (by omega))
    · rw [show n.log2 / 8 + 1 + 1 - 2 = n.log2 / 8 by omega, bits_eq]
      exact Nat.ge_two_pow_of_testBit set
  · rw [if_neg set]
    have clear : n < 2 ^ (8 * (n.log2 / 8) + 7) := by
      refine Nat.lt_pow_two_of_testBit n fun i le => ?_
      rcases Nat.eq_or_lt_of_le le with rfl | higher
      · exact Bool.eq_false_iff.2 set
      · exact Nat.testBit_lt_two_pow
          (Nat.lt_of_lt_of_le below (Nat.pow_le_pow_right (by decide) (by omega)))
    refine ⟨by omega, ?_, ?_⟩
    · rw [show n.log2 / 8 + 1 - 1 = n.log2 / 8 by omega, bits_eq]
      exact clear
    · by_cases one : n.log2 / 8 = 0
      · exact .inl (by omega)
      · refine .inr ?_
        rw [show n.log2 / 8 + 1 - 2 = n.log2 / 8 - 1 by omega, bits_eq]
        have positive : n ≠ 0 := by
          rintro rfl
          exact one rfl
        exact (Nat.le_log2 positive).1 (by omega)

/-! ### What stands for a number -/

/-- The bytes stand for a number that is not negative. -/
theorem signed_eq_iff {bytes : Bytes} {n : Nat} (some : bytes ≠ []) :
    signed bytes = n ↔ Bytes.bigEndian bytes = n ∧ n < 128 * 256 ^ (bytes.length - 1) := by
  cases bytes with
  | nil => exact absurd rfl some
  | cons first rest =>
      have lt := Bytes.bigEndian_lt (first :: rest)
      have rest_lt := Bytes.bigEndian_lt rest
      have whole := Bytes.bigEndian_cons first rest
      unfold signed
      dsimp only
      rw [List.length_cons, Nat.add_sub_cancel]
      rw [List.length_cons] at lt
      by_cases clear : first.toNat < 128
      · have fits : Bytes.bigEndian (first :: rest) < 128 * 256 ^ rest.length := by
          calc Bytes.bigEndian (first :: rest)
              < first.toNat * 256 ^ rest.length + 256 ^ rest.length := by omega
            _ = (first.toNat + 1) * 256 ^ rest.length := (Nat.succ_mul ..).symm
            _ ≤ 128 * 256 ^ rest.length := Nat.mul_le_mul_right _ clear
        rw [if_pos clear]
        omega
      · have large : 128 * 256 ^ rest.length ≤ first.toNat * 256 ^ rest.length :=
          Nat.mul_le_mul_right _ (Nat.le_of_not_lt clear)
        rw [if_neg clear]
        omega

/-- The highest bit is clear if the number is small enough. -/
theorem first_lt {first second : UInt8} {rest : Bytes}
    (fits : Bytes.bigEndian (first :: second :: rest) < 128 * 256 ^ (rest.length + 1)) :
    first.toNat < 128 := by
  refine Nat.lt_of_not_le fun large => Nat.not_lt_of_le ?_ fits
  calc 128 * 256 ^ (rest.length + 1)
      = 128 * 256 * 256 ^ rest.length := by rw [Nat.pow_succ, Nat.mul_assoc, Nat.mul_comm 256]
    _ ≤ (first.toNat * 256 + second.toNat) * 256 ^ rest.length := Nat.mul_le_mul_right _ (by omega)
    _ ≤ Bytes.bigEndian (first :: second :: rest) := by
      rw [Bytes.bigEndian_cons_cons]
      exact Nat.le_add_right ..

/-- The first byte is needed exactly if the number is too large for the others. -/
theorem needed_iff {first second : UInt8} {rest : Bytes} :
    ¬(first.toNat = 0 ∧ second.toNat < 128) ↔
      128 * 256 ^ rest.length ≤ Bytes.bigEndian (first :: second :: rest) := by
  rw [Bytes.bigEndian_cons_cons]
  constructor
  · intro more
    exact Nat.le_trans (Nat.mul_le_mul_right _ (by omega)) (Nat.le_add_right ..)
  · rintro le ⟨zero, small⟩
    have rest_lt := Bytes.bigEndian_lt rest
    have below : (first.toNat * 256 + second.toNat + 1) * 256 ^ rest.length ≤ 128 * 256 ^ rest.length :=
      Nat.mul_le_mul_right _ (by omega)
    rw [Nat.succ_mul] at below
    omega

/-- No byte is there for the sign alone if the number needs all of them. -/
theorem strict_iff {bytes : Bytes} (some : bytes ≠ [])
    (fits : Bytes.bigEndian bytes < 128 * 256 ^ (bytes.length - 1)) :
    Strict bytes ↔ Takes (Bytes.bigEndian bytes) bytes.length := by
  match bytes with
  | [] => exact absurd rfl some
  | [first] => exact iff_of_true trivial ⟨Nat.one_pos, fits, .inl rfl⟩
  | first :: second :: rest =>
      have clear : first.toNat < 128 := first_lt fits
      constructor
      · rintro ⟨more, -⟩
        exact ⟨Nat.succ_pos _, fits, .inr (needed_iff.1 more)⟩
      · intro takes
        have large : 128 * 256 ^ rest.length ≤ Bytes.bigEndian (first :: second :: rest) := by
          rcases takes.needs with one | le
          · cases one
          · exact le
        exact ⟨needed_iff.2 large, by omega⟩

theorem length_content (n : Nat) : (content n).length = width n :=
  Bytes.length_ofBigEndian ..

theorem content_ne_nil (n : Nat) : content n ≠ [] := by
  have pos := (takes_width n).pos
  rw [← length_content] at pos
  exact List.ne_nil_of_length_pos pos

theorem bigEndian_content (n : Nat) : Bytes.bigEndian (content n) = n := by
  unfold content
  rw [Bytes.bigEndian_ofBigEndian]
  refine Nat.mod_eq_of_lt (Nat.lt_of_lt_of_le (takes_width n).fits ?_)
  obtain ⟨k, hk⟩ := Nat.exists_eq_add_of_lt (takes_width n).pos
  rw [hk, Nat.zero_add, Nat.add_sub_cancel, Nat.pow_succ, Nat.mul_comm]
  exact Nat.mul_le_mul_left _ (by decide)

theorem signed_content (n : Nat) : signed (content n) = n := by
  rw [signed_eq_iff (content_ne_nil n), length_content]
  exact ⟨bigEndian_content n, (takes_width n).fits⟩

/-- No bytes that stand for the number are fewer. -/
theorem length_content_le {bytes : Bytes} {n : Nat} (some : bytes ≠ []) (stands : signed bytes = n) :
    (content n).length ≤ bytes.length := by
  rw [length_content]
  exact (takes_width n).le (List.length_pos_iff.2 some) ((signed_eq_iff some).1 stands).2

/-- Of all that stands for a number, only what is written for it has no byte that the sign does not
need. -/
theorem strict_and_signed_iff {bytes : Bytes} {n : Nat} :
    Strict bytes ∧ signed bytes = n ↔ bytes = content n := by
  constructor
  · rintro ⟨strict, stands⟩
    have some : bytes ≠ [] := by
      rintro rfl
      exact strict
    obtain ⟨value, fits⟩ := (signed_eq_iff some).1 stands
    rw [← value] at fits
    have takes := (strict_iff some fits).1 strict
    rw [value] at takes
    rw [content, ← takes.unique (takes_width n), ← value, Bytes.ofBigEndian_bigEndian]
  · rintro rfl
    refine ⟨(strict_iff (content_ne_nil n) ?_).2 ?_, signed_content n⟩
    · rw [bigEndian_content, length_content]
      exact (takes_width n).fits
    · rw [bigEndian_content, length_content]
      exact takes_width n

theorem width_le {n : Nat} (small : n < 2 ^ 256) : width n ≤ 33 :=
  (takes_width n).le (by decide) (Nat.lt_of_lt_of_le small (by decide))

/-! ### Reading -/

/-- Reads an element of some tag: its content, and what stands behind it.  Its length is a single
byte, as for all that is shorter than 128. -/
def element? (tag : UInt8) : Bytes → Option (Bytes × Bytes)
  | tag' :: length :: rest =>
    if tag' = tag ∧ length.toNat < 128 ∧ length.toNat ≤ rest.length then
      some (rest.take length.toNat, rest.drop length.toNat)
    else none
  | _ => none

/-- Reads an integer that is written in no other bytes than it takes. -/
def integer? (bytes : Bytes) : Option (Int × Bytes) :=
  (element? 0x02 bytes).bind fun (content, rest) =>
    if Strict content then some (signed content, rest) else none

/-- Reads a sequence of two integers, with nothing behind them. -/
def pair? (bytes : Bytes) : Option (Int × Int) :=
  (element? 0x30 bytes).bind fun (body, behind) =>
    (integer? body).bind fun (r, rest) =>
      (integer? rest).bind fun (s, behind') =>
        if behind = [] ∧ behind' = [] then some (r, s) else none

theorem element?_eq_some_iff {tag : UInt8} {bytes content rest : Bytes} :
    element? tag bytes = some (content, rest) ↔
      content.length < 128 ∧ bytes = element tag content ++ rest := by
  unfold element? element
  constructor
  · intro read
    split at read
    · next tag' length behind =>
        split at read
        · next fits =>
            cases read
            obtain ⟨rfl, short, within⟩ := fits
            rw [List.length_take, Nat.min_eq_left within]
            refine ⟨short, ?_⟩
            rw [UInt8.ofNat_toNat, List.cons_append, List.cons_append, List.take_append_drop]
        · cases read
    · cases read
  · rintro ⟨short, rfl⟩
    have length : (UInt8.ofNat content.length).toNat = content.length := by
      rw [UInt8.toNat_ofNat']
      omega
    dsimp only [List.cons_append]
    rw [length, if_pos ⟨rfl, short, by simp⟩, List.take_left, List.drop_left]

theorem integer?_eq_some_iff {bytes rest : Bytes} {n : Nat} (small : n < 2 ^ 256) :
    integer? bytes = some ((n : Int), rest) ↔ bytes = element 0x02 (content n) ++ rest := by
  have short : (content n).length < 128 := by
    have := width_le small
    rw [length_content]
    omega
  unfold integer?
  rw [Option.bind_eq_some_iff]
  constructor
  · rintro ⟨⟨body, behind⟩, read, taken⟩
    dsimp only at taken
    split at taken
    · next strict =>
        simp only [Option.some.injEq, Prod.mk.injEq] at taken
        obtain ⟨stands, rfl⟩ := taken
        rw [← strict_and_signed_iff.1 ⟨strict, stands⟩]
        exact (element?_eq_some_iff.1 read).2
    · cases taken
  · rintro rfl
    refine ⟨(content n, rest), element?_eq_some_iff.2 ⟨short, rfl⟩, ?_⟩
    obtain ⟨strict, stands⟩ := strict_and_signed_iff.2 (rfl : content n = content n)
    dsimp only
    rw [if_pos strict, stands]

/-- What is read as two integers is what is written for them, and nothing else is. -/
theorem pair?_eq_some_iff {bytes : Bytes} {r s : Nat} (small : r < 2 ^ 256) (small' : s < 2 ^ 256) :
    pair? bytes = some ((r : Int), (s : Int)) ↔ bytes = der r s := by
  have short : (element 0x02 (content r) ++ element 0x02 (content s)).length < 128 := by
    have := width_le small
    have := width_le small'
    simp only [element, List.length_append, List.length_cons, length_content]
    omega
  rw [der_eq]
  unfold pair?
  constructor
  · intro read
    obtain ⟨⟨body, behind⟩, opened, read⟩ := Option.bind_eq_some_iff.1 read
    obtain ⟨⟨r', rest⟩, first, read⟩ := Option.bind_eq_some_iff.1 read
    obtain ⟨⟨s', behind'⟩, second, read⟩ := Option.bind_eq_some_iff.1 read
    dsimp only at first second read
    split at read
    · next ended =>
        simp only [Option.some.injEq, Prod.mk.injEq] at read
        obtain ⟨rfl, rfl⟩ := read
        obtain ⟨rfl, rfl⟩ := ended
        rw [integer?_eq_some_iff small] at first
        rw [integer?_eq_some_iff small', List.append_nil] at second
        rw [(element?_eq_some_iff.1 opened).2, List.append_nil, first, second]
    · cases read
  · rintro rfl
    have opened : element? 0x30 (element 0x30 (element 0x02 (content r) ++ element 0x02 (content s))) =
        some (_, []) := element?_eq_some_iff.2 ⟨short, (List.append_nil _).symm⟩
    have first : integer? (element 0x02 (content r) ++ element 0x02 (content s)) = some ((r : Int), _) :=
      (integer?_eq_some_iff small).2 rfl
    have second : integer? (element 0x02 (content s)) = some ((s : Int), []) :=
      (integer?_eq_some_iff small').2 (List.append_nil _).symm
    rw [opened, Option.bind_some]
    dsimp only
    rw [first, Option.bind_some]
    dsimp only
    rw [second, Option.bind_some]
    exact if_pos ⟨rfl, rfl⟩

/-- Beside a number whose highest bit is clear, one whose highest bit is set takes a byte more. -/
example : der 127 128 = [0x30, 7, 0x02, 1, 127, 0x02, 2, 0, 128] ∧
    pair? (der 127 128) = some (127, 128) := by
  decide

end Der

end QuorumVault
