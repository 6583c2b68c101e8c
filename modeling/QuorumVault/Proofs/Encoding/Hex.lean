/-
Which texts are hexadecimal.

A text is read as bytes exactly if in small letters it is what is written for them.  So the case of
its letters is all that is free in writing bytes, and what can be read at all are the texts of digits,
two for every byte.
-/
import QuorumVault.Encoding.Hex

namespace QuorumVault.Hex

/-- A digit, in either case of letter. -/
def IsDigit (c : Char) : Prop :=
  c ∈ "0123456789ABCDEFabcdef".toList

instance (c : Char) : Decidable (IsDigit c) :=
  List.instDecidableMemOfLawfulBEq c _

/-- A text of digits, two for every byte. -/
structure Digits (s : String) : Prop where
  even : s.length % 2 = 0
  digits : ∀ c ∈ s.toList, IsDigit c

theorem digits_iff {s : String} : Digits s ↔ s.length % 2 = 0 ∧ ∀ c ∈ s.toList, IsDigit c :=
  ⟨fun h => ⟨h.even, h.digits⟩, fun h => ⟨h.1, h.2⟩⟩

instance (s : String) : Decidable (Digits s) :=
  have : Decidable (∀ c ∈ s.toList, IsDigit c) := List.decidableBAll _ s.toList
  decidable_of_decidable_of_iff digits_iff.symm

theorem encode_inj {bytes bytes' : Bytes} (h : encode bytes = encode bytes') : bytes = bytes' := by
  have decoded := congrArg decode h
  simpa using decoded

/-! ### Characters -/

theorem digit_inj : ∀ n < 16, ∀ m < 16, digit n = digit m → n = m := by
  decide

theorem toNat_digit_lt : ∀ n < 16, (digit n).toNat < 128 := by
  decide

/-- How the bytes of a character are read: as the digit that it is in small letters, or as none. -/
inductive ReadAs (c : Char) : Bytes → Prop
  | digit {n b} (lt : n < 16) (value : digitValue b = some n) (small : c.toLower = digit n)
      (isDigit : IsDigit c) : ReadAs c [b]
  | other {b more} (value : digitValue b = none) (small : ∀ n < 16, c.toLower ≠ digit n)
      (isNone : ¬IsDigit c) : ReadAs c (b :: more)

/-- Characters of seven bits, one by one. -/
theorem ascii_cases : ∀ n < 128,
    (∃ k < 16, digitValue (UInt8.ofNat n) = some k ∧ (Char.ofNat n).toLower = digit k ∧
      IsDigit (Char.ofNat n)) ∨
    (digitValue (UInt8.ofNat n) = none ∧ (∀ k < 16, (Char.ofNat n).toLower ≠ digit k) ∧
      ¬IsDigit (Char.ofNat n)) := by
  decide +kernel

theorem exists_encodePoint_cons {n : Nat} (large : 128 ≤ n) (lt : n < 0x110000) :
    ∃ b more, Utf8.encodePoint n = b :: more ∧ 128 ≤ b.toNat := by
  unfold Utf8.encodePoint
  rw [if_neg (by omega)]
  split
  · exact ⟨_, _, rfl, by rw [Utf8.toNat_byte (by omega)]; omega⟩
  split
  · exact ⟨_, _, rfl, by rw [Utf8.toNat_byte (by omega)]; omega⟩
  · exact ⟨_, _, rfl, by rw [Utf8.toNat_byte (by omega)]; omega⟩

theorem digitValue_eq_none {b : UInt8} (large : 128 ≤ b.toNat) : digitValue b = none := by
  unfold digitValue
  simp only
  rw [if_neg (by omega), if_neg (by omega), if_neg (by omega)]

theorem toLower_eq_self {c : Char} (large : 128 ≤ c.toNat) : c.toLower = c := by
  have capital : ¬(c.val ≥ 'A'.val ∧ c.val ≤ 'Z'.val) := by
    rintro ⟨-, le⟩
    have le : c.toNat ≤ 90 := le
    omega
  exact dif_neg capital

theorem isDigit_lt {c : Char} (h : IsDigit c) : c.toNat < 128 := by
  have all : "0123456789ABCDEFabcdef".toList.all (·.toNat < 128) = true := by decide
  exact of_decide_eq_true (List.all_eq_true.1 all c h)

theorem readAs (c : Char) : ReadAs c (Utf8.encodePoint c.toNat) := by
  by_cases ascii : c.toNat < 128
  · have byte : Utf8.encodePoint c.toNat = [UInt8.ofNat c.toNat] := if_pos ascii
    have cases := ascii_cases c.toNat ascii
    rw [Char.ofNat_toNat] at cases
    rw [byte]
    rcases cases with ⟨n, lt, value, small, isDigit⟩ | ⟨value, small, isNone⟩
    · exact .digit lt value small isDigit
    · exact .other value small isNone
  · have large : 128 ≤ c.toNat := Nat.le_of_not_lt ascii
    have valid : c.toNat < 0xD800 ∨ 0xDFFF < c.toNat ∧ c.toNat < 0x110000 := c.valid
    obtain ⟨b, more, bytes, first⟩ := exists_encodePoint_cons large (by omega)
    rw [bytes]
    refine .other (digitValue_eq_none first) (fun n lt same => ?_) fun h => ascii (isDigit_lt h)
    rw [toLower_eq_self large] at same
    have := toNat_digit_lt n lt
    rw [← same] at this
    exact ascii this

/-! ### Texts -/

theorem toList_toLower (text : String) : text.toLower.toList = text.toList.map Char.toLower :=
  String.toList_map

theorem encodeChars_cons (c : Char) (cs : List Char) :
    Utf8.encodeChars (c :: cs) = Utf8.encodePoint c.toNat ++ Utf8.encodeChars cs :=
  List.flatMap_cons

/-- What pairs of digits are read as. -/
theorem decodePairs_cons_eq_ok_iff {index : Nat} {high low : UInt8} {rest bytes : Bytes} :
    decodePairs index (high :: low :: rest) = .ok bytes ↔
      ∃ h l tail, digitValue high = some h ∧ digitValue low = some l ∧
        decodePairs (index + 2) rest = .ok tail ∧ bytes = UInt8.ofNat (16 * h + l) :: tail := by
  rw [decodePairs]
  unfold valueAt
  cases digitValue high with
  | none => simp [bind, Except.bind]
  | some h =>
      cases digitValue low with
      | none => simp [bind, Except.bind]
      | some l =>
          generalize decodePairs (index + 2) rest = read
          cases read with
          | error fault => simp [bind, Except.bind]
          | ok tail => simp [bind, Except.bind, pure, Except.pure, eq_comm]

/-- A byte that is no digit is not read, whatever follows. -/
theorem decodePairs_ne_ok {index : Nat} {b : UInt8} {more bytes : Bytes}
    (none : digitValue b = none) : decodePairs index (b :: more) ≠ .ok bytes := by
  cases more with
  | nil => nofun
  | cons low rest =>
      intro h
      obtain ⟨h, _, _, value, -⟩ := decodePairs_cons_eq_ok_iff.1 h
      cases none.symm.trans value

theorem digitsOf_ofNat {h l : Nat} (hh : h < 16) (hl : l < 16) :
    digitsOf (UInt8.ofNat (16 * h + l)) = [digit h, digit l] := by
  unfold digitsOf
  rw [Utf8.toNat_byte (by omega), show (16 * h + l) / 16 = h by omega,
    show (16 * h + l) % 16 = l by omega]

theorem eq_ofNat_of_digitsOf {b : UInt8} {h l : Nat} (hh : h < 16) (hl : l < 16)
    (same : digitsOf b = [digit h, digit l]) : b = UInt8.ofNat (16 * h + l) := by
  have lt := b.toNat_lt
  simp only [digitsOf, List.cons.injEq, and_true] at same
  have high : b.toNat / 16 = h := digit_inj _ (by omega) h hh same.1
  have low : b.toNat % 16 = l := digit_inj _ (by omega) l hl same.2
  have whole : 16 * h + l = b.toNat := by omega
  rw [whole, UInt8.ofNat_toNat]

theorem length_encode (bytes : Bytes) : (encode bytes).toList.length = 2 * bytes.length := by
  rw [encode, String.toList_ofList]
  induction bytes with
  | nil => rfl
  | cons b rest ih =>
      rw [List.flatMap_cons, List.length_append, ih, List.length_cons]
      show 2 + 2 * rest.length = _
      omega

/-- Characters are read as bytes exactly if in small letters they are those that are written for the
bytes. -/
theorem decodePairs_eq_ok_iff : ∀ (cs : List Char) {index : Nat} {bytes : Bytes},
    decodePairs index (Utf8.encodeChars cs) = .ok bytes ↔
      cs.map Char.toLower = bytes.flatMap digitsOf
  | [], index, bytes => by
      cases bytes with
      | nil => exact ⟨fun _ => rfl, fun _ => rfl⟩
      | cons b rest => exact ⟨nofun, nofun⟩
  | [c], index, bytes => by
      refine iff_of_false ?_ ?_
      · have reads := readAs c
        rw [encodeChars_cons]
        generalize Utf8.encodePoint c.toNat = first at reads
        cases reads with
        | digit => nofun
        | other value => exact decodePairs_ne_ok value
      · cases bytes <;> simp [digitsOf]
  | c :: d :: rest, index, bytes => by
      -- Two characters at a time, as they are read: the first that is no digit settles both sides.
      have split {x y : Char} : x :: y :: rest.map Char.toLower = bytes.flatMap digitsOf ↔
          ∃ b tail, bytes = b :: tail ∧ digitsOf b = [x, y] ∧
            rest.map Char.toLower = tail.flatMap digitsOf := by
        cases bytes with
        | nil => simp
        | cons b tail => simp [digitsOf, eq_comm, and_assoc]
      have readsc := readAs c
      have readsd := readAs d
      rw [encodeChars_cons, encodeChars_cons, List.map_cons, List.map_cons, split]
      generalize Utf8.encodePoint c.toNat = high at readsc
      generalize Utf8.encodePoint d.toNat = low at readsd
      cases readsc with
      | other value small =>
          refine iff_of_false (decodePairs_ne_ok value) ?_
          rintro ⟨b, tail, -, same, -⟩
          have lt := b.toNat_lt
          exact small (b.toNat / 16) (by omega) (List.cons.inj same).1.symm
      | @digit h b lth valueh smallh =>
        cases readsd with
        | other value small =>
            refine iff_of_false ?_ ?_
            · intro read
              obtain ⟨-, l, -, -, value', -⟩ := decodePairs_cons_eq_ok_iff.1 read
              cases value.symm.trans value'
            · rintro ⟨b, tail, -, same, -⟩
              exact small (b.toNat % 16) (by omega) (List.cons.inj (List.cons.inj same).2).1.symm
        | @digit l b' ltl valuel smalll =>
            rw [List.singleton_append, List.singleton_append, decodePairs_cons_eq_ok_iff, smallh,
              smalll]
            constructor
            · rintro ⟨h', l', tail, valueh', valuel', read, rfl⟩
              cases valueh.symm.trans valueh'
              cases valuel.symm.trans valuel'
              exact ⟨_, tail, rfl, digitsOf_ofNat lth ltl, (decodePairs_eq_ok_iff rest).1 read⟩
            · rintro ⟨b, tail, rfl, same, written⟩
              refine ⟨h, l, tail, valueh, valuel, (decodePairs_eq_ok_iff rest).2 written, ?_⟩
              rw [eq_ofNat_of_digitsOf lth ltl same]

/-- Every byte that is read has two digits. -/
theorem length_of_decodePairs : ∀ {digits : Bytes} {index : Nat} {bytes : Bytes},
    decodePairs index digits = .ok bytes → digits.length = 2 * bytes.length
  | [], index, bytes, h => by
      cases h
      rfl
  | [_], index, bytes, h => by cases h
  | high :: low :: rest, index, bytes, h => by
      obtain ⟨_, _, tail, -, -, read, rfl⟩ := decodePairs_cons_eq_ok_iff.1 h
      have length := length_of_decodePairs read
      rw [List.length_cons, List.length_cons, List.length_cons]
      omega

/-- That the number of digits is looked at first makes no difference to what can be read. -/
theorem decodeBytes_eq_ok_iff {digits bytes : Bytes} :
    decodeBytes digits = .ok bytes ↔ decodePairs 0 digits = .ok bytes := by
  unfold decodeBytes
  by_cases odd : digits.length % 2 = 1
  · rw [if_pos odd]
    refine iff_of_false nofun fun read => ?_
    have length := length_of_decodePairs read
    omega
  · rw [if_neg odd]

/-- A text is read as bytes exactly if in small letters it is what is written for them. -/
theorem decode_eq_ok_iff {text : String} {bytes : Bytes} :
    decode text = .ok bytes ↔ text.toLower = encode bytes := by
  rw [decode, decodeBytes_eq_ok_iff, Utf8.encode, decodePairs_eq_ok_iff, encode,
    ← String.toList_inj, toList_toLower, String.toList_ofList]

theorem length_of_decode {text : String} {bytes : Bytes} (read : decode text = .ok bytes) :
    text.length = 2 * bytes.length := by
  have small := congrArg (·.toList.length) (decode_eq_ok_iff.1 read)
  simp only [toList_toLower, List.length_map, length_encode] at small
  rw [← String.length_toList, small]

/-! ### Digits -/

theorem isDigit_iff {c : Char} : IsDigit c ↔ ∃ n < 16, c.toLower = digit n := by
  have reads := readAs c
  generalize Utf8.encodePoint c.toNat = bytes at reads
  cases reads with
  | digit lt value small isDigit => exact iff_of_true isDigit ⟨_, lt, small⟩
  | other value small isNone => exact iff_of_false isNone fun ⟨n, lt, same⟩ => small n lt same

theorem exists_written : ∀ {cs : List Char}, cs.length % 2 = 0 → (∀ c ∈ cs, IsDigit c) →
    ∃ bytes : Bytes, cs.map Char.toLower = bytes.flatMap digitsOf
  | [], _, _ => ⟨[], rfl⟩
  | [_], even, _ => by cases even
  | c :: d :: rest, even, all => by
      rw [List.forall_mem_cons, List.forall_mem_cons] at all
      obtain ⟨h, lth, smallh⟩ := isDigit_iff.1 all.1
      obtain ⟨l, ltl, smalll⟩ := isDigit_iff.1 all.2.1
      rw [List.length_cons, List.length_cons] at even
      obtain ⟨bytes, written⟩ := exists_written (by omega) all.2.2
      refine ⟨UInt8.ofNat (16 * h + l) :: bytes, ?_⟩
      rw [List.flatMap_cons, digitsOf_ofNat lth ltl, List.map_cons, List.map_cons, smallh, smalll,
        written]
      rfl

/-- The texts of digits, two for every byte, are those that can be read. -/
theorem exists_decode_iff {text : String} : (∃ bytes, decode text = .ok bytes) ↔ Digits text := by
  constructor
  · rintro ⟨bytes, read⟩
    have small := congrArg String.toList (decode_eq_ok_iff.1 read)
    rw [toList_toLower] at small
    refine ⟨?_, fun c mem => ?_⟩
    · rw [length_of_decode read]
      omega
    · have among : c.toLower ∈ (encode bytes).toList := small ▸ List.mem_map_of_mem mem
      exact isDigit_iff.2 (exists_digit_of_mem_encode among)
  · rintro ⟨even, all⟩
    rw [← String.length_toList] at even
    obtain ⟨bytes, written⟩ := exists_written even all
    refine ⟨bytes, decode_eq_ok_iff.2 ?_⟩
    rw [encode, ← String.toList_inj, toList_toLower, String.toList_ofList, written]

/-- Texts are read as the same bytes exactly if they are the same but for the case of letters. -/
theorem decode_eq_decode_iff {text text' : String} (digits : Digits text) :
    decode text = decode text' ↔ text.toLower = text'.toLower := by
  obtain ⟨bytes, read⟩ := exists_decode_iff.2 digits
  rw [read, eq_comm, decode_eq_ok_iff, decode_eq_ok_iff.1 read, eq_comm]

end QuorumVault.Hex
