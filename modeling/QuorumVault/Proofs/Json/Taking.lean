/-
What readers take.

A reader takes some bytes if, with given bytes behind them, it ends right behind them
with a given value, whatever line and column it began at.  That is all that is needed to
read back what was written: bytes taken one after the other are taken by one reader
after the other.
-/
import QuorumVault.Json.Reader
import QuorumVault.Proofs.Text.Digits

namespace QuorumVault

theorem Utf8.encodeChars_append (cs cs' : List Char) :
    encodeChars (cs ++ cs') = encodeChars cs ++ encodeChars cs' :=
  List.flatMap_append

theorem Utf8.encodeChars_cons (c : Char) (cs : List Char) :
    encodeChars (c :: cs) = encodePoint c.toNat ++ encodeChars cs :=
  List.flatMap_cons

theorem Utf8.length_encodeChars_cons_pos (c : Char) (cs : List Char) :
    1 ≤ (encodeChars (c :: cs)).length := by
  have point : 1 ≤ (encodePoint c.toNat).length := by
    unfold encodePoint
    split
    · exact Nat.le_refl 1
    split
    · exact Nat.le_succ 1
    split <;> simp
  rw [encodeChars, List.flatMap_cons, List.length_append]
  omega

end QuorumVault

namespace QuorumVault.Json.Reader

variable {α β : Type}

/-- The reader takes the bytes in front of the rest, and gives a value. -/
def Takes (m : Reader α) (bytes : Bytes) (x : α) (rest : Bytes) : Prop :=
  ∀ line column, ∃ line' column',
    m ⟨bytes ++ rest, line, column⟩ = .ok (x, ⟨rest, line', column'⟩)

namespace Takes

variable {m : Reader α} {f : α → Reader β} {bytes bytes' rest : Bytes} {x : α} {y : β}

theorem bind (first : m.Takes bytes x (bytes' ++ rest)) (second : (f x).Takes bytes' y rest) :
    Takes (m >>= f) (bytes ++ bytes') y rest := by
  intro line column
  obtain ⟨line₁, column₁, h₁⟩ := first line column
  obtain ⟨line₂, column₂, h₂⟩ := second line₁ column₁
  refine ⟨line₂, column₂, ?_⟩
  show (m ⟨bytes ++ bytes' ++ rest, line, column⟩ >>= fun p => f p.1 p.2) = _
  rw [List.append_assoc, h₁]
  exact h₂

/-- A reader that takes nothing, in front of another one. -/
theorem bind_nil (first : m.Takes [] x (bytes ++ rest)) (second : (f x).Takes bytes y rest) :
    Takes (m >>= f) bytes y rest :=
  bind first second

theorem bind_last (first : m.Takes bytes x rest) (second : (f x).Takes [] y rest) :
    Takes (m >>= f) bytes y rest := by
  have both : Takes (m >>= f) (bytes ++ []) y rest := bind first second
  rwa [List.append_nil] at both

theorem pure (x : α) (rest : Bytes) : Takes (Pure.pure x : Reader α) [] x rest :=
  fun line column => ⟨line, column, rfl⟩

theorem map (g : α → β) (h : m.Takes bytes x rest) : Takes (g <$> m) bytes (g x) rest := by
  intro line column
  obtain ⟨line', column', hm⟩ := h line column
  refine ⟨line', column', ?_⟩
  show (m ⟨bytes ++ rest, line, column⟩ >>= fun p => Pure.pure (g p.1, p.2)) = _
  rw [hm]
  rfl

end Takes

variable {b : UInt8} {rest : Bytes}

theorem advance_cons (b : UInt8) (rest : Bytes) (line column : Nat) :
    ∃ line' column', Cursor.advance ⟨b :: rest, line, column⟩ = ⟨rest, line', column'⟩ := by
  unfold Cursor.advance
  by_cases h : b = 10
  · exact ⟨line + 1, 0, by simp [h]⟩
  · exact ⟨line, column + 1, by simp [h]⟩

theorem skip_takes (b : UInt8) (rest : Bytes) : skip.Takes [b] () rest := by
  intro line column
  obtain ⟨line', column', h⟩ := advance_cons b rest line column
  exact ⟨line', column', congrArg (fun c => Except.ok ((), c)) h⟩

theorem next_takes (b : UInt8) (rest : Bytes) : next.Takes [b] (some b) rest := by
  intro line column
  obtain ⟨line', column', h⟩ := advance_cons b rest line column
  exact ⟨line', column', congrArg (fun c => Except.ok (some b, c)) h⟩

theorem peek_takes (rest : Bytes) : peek.Takes [] rest.head? rest :=
  fun line column => ⟨line, column, rfl⟩

theorem remaining_takes (rest : Bytes) : remaining.Takes [] rest.length rest :=
  fun line column => ⟨line, column, rfl⟩

/-- A byte that is no blank. -/
def Solid (b : UInt8) : Prop :=
  b ≠ 10 ∧ b ≠ 32 ∧ b ≠ 9 ∧ b ≠ 13

instance (b : UInt8) : Decidable (Solid b) :=
  inferInstanceAs (Decidable (_ ∧ _))

/-- In front of something that is no blank there are no blanks to skip. -/
theorem peekBehindBlanks_takes (solid : Solid b) (rest : Bytes) :
    peekBehindBlanks.Takes [] (some b) (b :: rest) := by
  intro line column
  refine ⟨line, column, ?_⟩
  have stays : Cursor.skipBlanks line column (b :: rest) = ⟨b :: rest, line, column⟩ := by
    rw [Cursor.skipBlanks, if_neg solid.1, if_neg]
    rintro (h | h | h)
    · exact solid.2.1 h
    · exact solid.2.2.1 h
    · exact solid.2.2.2 h
  show (Except.ok ((Cursor.skipBlanks line column (b :: rest)).rest.head?,
    Cursor.skipBlanks line column (b :: rest)) : Except Fault _) = _
  rw [stays]
  rfl

theorem finish_takes : finish.Takes [] () [] :=
  fun line column => ⟨line, column, rfl⟩

theorem word_takes (bytes rest : Bytes) : (word bytes).Takes bytes () rest := by
  induction bytes with
  | nil => exact .pure () rest
  | cons b bytes ih =>
      show Takes _ ([b] ++ bytes) () rest
      refine Takes.bind (next_takes b _) ?_
      dsimp only
      rw [if_pos rfl]
      exact ih

/-! ### Strings -/

/-- A byte that stands for itself in a string. -/
def isPlain (b : UInt8) : Bool :=
  b ≠ 34 && b ≠ 92 && !(b.toNat < 32)

theorem isPlain_ofNat {n : Nat} (byte : n < 256) (large : 32 ≤ n) (quote : n ≠ 34)
    (backslash : n ≠ 92) : isPlain (UInt8.ofNat n) = true := by
  have value : (UInt8.ofNat n).toNat = n := Utf8.toNat_byte byte
  have notQuote : UInt8.ofNat n ≠ 34 := fun h => quote (value.symm.trans (congrArg UInt8.toNat h))
  have notBackslash : UInt8.ofNat n ≠ 92 :=
    fun h => backslash (value.symm.trans (congrArg UInt8.toNat h))
  unfold isPlain
  rw [value]
  simp [notQuote, notBackslash, large]

/-- The bytes of a character are plain unless it is a quote, a backslash or a control character. -/
theorem isPlain_of_large {c : Char} (quote : c ≠ '"') (backslash : c ≠ '\\') (large : ¬c.toNat < 32) :
    ∀ d ∈ Utf8.encodePoint c.toNat, isPlain d = true := by
  have notQuote : c.toNat ≠ 34 := fun h => quote (Char.toNat_inj.1 h)
  have notBackslash : c.toNat ≠ 92 := fun h => backslash (Char.toNat_inj.1 h)
  have valid : c.toNat < 0xD800 ∨ 0xDFFF < c.toNat ∧ c.toNat < 0x110000 := c.valid
  unfold Utf8.encodePoint
  generalize c.toNat = n at notQuote notBackslash large valid
  split
  · simpa using isPlain_ofNat (by omega) (by omega) notQuote notBackslash
  split
  · simp only [List.mem_cons, List.not_mem_nil, or_false, forall_eq_or_imp, forall_eq]
    exact ⟨isPlain_ofNat (by omega) (by omega) (by omega) (by omega),
      isPlain_ofNat (by omega) (by omega) (by omega) (by omega)⟩
  split
  · simp only [List.mem_cons, List.not_mem_nil, or_false, forall_eq_or_imp, forall_eq]
    exact ⟨isPlain_ofNat (by omega) (by omega) (by omega) (by omega),
      isPlain_ofNat (by omega) (by omega) (by omega) (by omega),
      isPlain_ofNat (by omega) (by omega) (by omega) (by omega)⟩
  · simp only [List.mem_cons, List.not_mem_nil, or_false, forall_eq_or_imp, forall_eq]
    exact ⟨isPlain_ofNat (by omega) (by omega) (by omega) (by omega),
      isPlain_ofNat (by omega) (by omega) (by omega) (by omega),
      isPlain_ofNat (by omega) (by omega) (by omega) (by omega),
      isPlain_ofNat (by omega) (by omega) (by omega) (by omega)⟩

theorem plainBytes_takes {plain : Bytes} (all : ∀ d ∈ plain, isPlain d = true)
    (stop : isPlain b = false) (rest : Bytes) : plainBytes.Takes plain plain (b :: rest) := by
  intro line column
  have taken : (plain ++ b :: rest).takeWhile isPlain = plain := by
    rw [List.takeWhile_append_of_pos all, List.takeWhile_cons_of_neg (by simp [stop]),
      List.append_nil]
  refine ⟨line, column + plain.length, ?_⟩
  show (Except.ok ((plain ++ b :: rest).takeWhile isPlain,
    Cursor.mk ((plain ++ b :: rest).drop ((plain ++ b :: rest).takeWhile isPlain).length) line
      (column + ((plain ++ b :: rest).takeWhile isPlain).length)) : Except Fault _) = _
  rw [taken, List.drop_left]

theorem fourDigits_takes {w x y z : UInt8} {k l m n : Nat} (hw : Hex.digitValue w = some k)
    (hx : Hex.digitValue x = some l) (hy : Hex.digitValue y = some m)
    (hz : Hex.digitValue z = some n) (rest : Bytes) :
    fourDigits.Takes [w, x, y, z] (((k * 16 + l) * 16 + m) * 16 + n) rest := by
  intro line column
  obtain ⟨line₁, column₁, h₁⟩ := advance_cons w (x :: y :: z :: rest) line column
  obtain ⟨line₂, column₂, h₂⟩ := advance_cons x (y :: z :: rest) line₁ column₁
  obtain ⟨line₃, column₃, h₃⟩ := advance_cons y (z :: rest) line₂ column₂
  obtain ⟨line₄, column₄, h₄⟩ := advance_cons z rest line₃ column₃
  refine ⟨line₄, column₄, ?_⟩
  unfold fourDigits
  simp only [List.cons_append, List.nil_append, hw, hx, hy, hz, h₁, h₂, h₃, h₄]

theorem escape_takes_short (b d : UInt8) (code : b ≠ 117) (short : shortEscape b = some d)
    (rest : Bytes) : escape.Takes [b] (Char.ofNat d.toNat) rest := by
  refine Takes.bind_last (next_takes b rest) ?_
  dsimp only
  rw [if_neg code, short]
  exact .pure _ rest

theorem digitValue_digitChar : ∀ n < 16,
    Utf8.encodePoint (Nat.digitChar n).toNat = [UInt8.ofNat (Nat.digitChar n).toNat] ∧
      Hex.digitValue (UInt8.ofNat (Nat.digitChar n).toNat) = some n := by
  decide

theorem escape_takes_code {c : Char} (small : c.toNat < 32) (rest : Bytes) :
    escape.Takes (Utf8.encodeChars
      ['u', '0', '0', Nat.digitChar (c.toNat / 16), Nat.digitChar (c.toNat % 16)]) c rest := by
  obtain ⟨high, valueHigh⟩ := digitValue_digitChar (c.toNat / 16) (by omega)
  obtain ⟨low, valueLow⟩ := digitValue_digitChar (c.toNat % 16) (by omega)
  have bytes : Utf8.encodeChars
      ['u', '0', '0', Nat.digitChar (c.toNat / 16), Nat.digitChar (c.toNat % 16)] =
        [117] ++ [48, 48, UInt8.ofNat (Nat.digitChar (c.toNat / 16)).toNat,
          UInt8.ofNat (Nat.digitChar (c.toNat % 16)).toNat] := by
    simp only [Utf8.encodeChars, List.flatMap_cons, List.flatMap_nil, high, low]
    rfl
  have value : ((0 * 16 + 0) * 16 + c.toNat / 16) * 16 + c.toNat % 16 = c.toNat := by omega
  have digits := fourDigits_takes (w := 48) (x := 48) (k := 0) (l := 0) rfl rfl valueHigh valueLow rest
  rw [value] at digits
  rw [bytes]
  refine Takes.bind (next_takes 117 _) ?_
  dsimp only
  rw [if_pos rfl]
  refine Takes.bind_last digits ?_
  rw [if_neg (by omega), if_pos (by omega), Char.ofNat_toNat]
  exact .pure c rest

/-- A character is written as itself, in plain bytes, or as an escape that is read as it. -/
theorem escape_cases (c : Char) :
    (Json.escape c = [c] ∧ ∀ d ∈ Utf8.encodePoint c.toNat, isPlain d = true) ∨
      ∃ tail, Json.escape c = '\\' :: tail ∧
        ∀ rest, escape.Takes (Utf8.encodeChars tail) c rest := by
  unfold Json.escape
  by_cases quote : c = '"'
  · rw [if_pos quote, quote]
    exact .inr ⟨_, rfl, escape_takes_short 34 34 (by decide) (by decide)⟩
  rw [if_neg quote]
  by_cases backslash : c = '\\'
  · rw [if_pos backslash, backslash]
    exact .inr ⟨_, rfl, escape_takes_short 92 92 (by decide) (by decide)⟩
  rw [if_neg backslash]
  by_cases lineFeed : c = '\n'
  · rw [if_pos lineFeed, lineFeed]
    exact .inr ⟨_, rfl, escape_takes_short 110 10 (by decide) (by decide)⟩
  rw [if_neg lineFeed]
  by_cases carriage : c = '\r'
  · rw [if_pos carriage, carriage]
    exact .inr ⟨_, rfl, escape_takes_short 114 13 (by decide) (by decide)⟩
  rw [if_neg carriage]
  by_cases tab : c = '\t'
  · rw [if_pos tab, tab]
    exact .inr ⟨_, rfl, escape_takes_short 116 9 (by decide) (by decide)⟩
  rw [if_neg tab]
  by_cases backspace : c = '\x08'
  · rw [if_pos backspace, backspace]
    exact .inr ⟨_, rfl, escape_takes_short 98 8 (by decide) (by decide)⟩
  rw [if_neg backspace]
  by_cases formFeed : c = '\x0c'
  · rw [if_pos formFeed, formFeed]
    exact .inr ⟨_, rfl, escape_takes_short 102 12 (by decide) (by decide)⟩
  rw [if_neg formFeed]
  by_cases small : c.toNat < 32
  · rw [if_pos small]
    exact .inr ⟨_, rfl, escape_takes_code small⟩
  rw [if_neg small]
  exact .inl ⟨rfl, isPlain_of_large quote backslash small⟩

theorem length_le_escaped (cs : List Char) :
    cs.length ≤ (Utf8.encodeChars (cs.flatMap Json.escape)).length := by
  induction cs with
  | nil => exact Nat.le_refl _
  | cons c cs ih =>
      have some : 1 ≤ (Utf8.encodeChars (Json.escape c)).length := by
        rcases escape_cases c with ⟨same, -⟩ | ⟨tail, escaped, -⟩
        · rw [same]
          exact Utf8.length_encodeChars_cons_pos c []
        · rw [escaped]
          exact Utf8.length_encodeChars_cons_pos _ tail
      rw [List.flatMap_cons, Utf8.encodeChars_append, List.length_append, List.length_cons]
      omega

/-- The bytes of a string's characters, escaped where they must be, are read as the bytes of the
characters.  The induction keeps the plain bytes that were not yet read in front of the rest. -/
theorem stringBytes_takes (cs : List Char) (plain : Bytes) (all : ∀ d ∈ plain, isPlain d = true)
    {bound : Nat} (enough : cs.length < bound) (rest : Bytes) :
    (stringBytes bound).Takes
      (plain ++ (Utf8.encodeChars (cs.flatMap Json.escape) ++ [34]))
      (plain ++ Utf8.encodeChars cs) rest := by
  induction cs generalizing plain bound with
  | nil =>
      obtain ⟨bound, rfl⟩ : ∃ n, bound = n + 1 := Nat.exists_eq_add_one.2 enough
      refine Takes.bind (plainBytes_takes all (by decide) rest) ?_
      refine Takes.bind_last (next_takes 34 rest) ?_
      dsimp only
      rw [if_pos rfl]
      simpa [Utf8.encodeChars] using Takes.pure plain rest
  | cons c cs ih =>
      rw [List.flatMap_cons, Utf8.encodeChars_append, Utf8.encodeChars_cons]
      rcases escape_cases c with ⟨same, plainly⟩ | ⟨tail, escaped, takes⟩
      · have more : ∀ d ∈ plain ++ Utf8.encodePoint c.toNat, isPlain d = true := by
          intro d hd
          rcases List.mem_append.1 hd with hd | hd
          · exact all d hd
          · exact plainly d hd
        have single : Utf8.encodeChars [c] = Utf8.encodePoint c.toNat := by simp [Utf8.encodeChars]
        rw [same, single]
        simpa using ih _ more (Nat.lt_of_succ_lt enough)
      · obtain ⟨bound, rfl⟩ : ∃ n, bound = n + 1 :=
          Nat.exists_eq_add_one.2 (Nat.lt_of_le_of_lt (Nat.zero_le _) enough)
        have start : Utf8.encodeChars ('\\' :: tail) = [92] ++ Utf8.encodeChars tail := rfl
        rw [escaped, start, List.append_assoc, List.append_assoc]
        refine Takes.bind (plainBytes_takes all (by decide) _) ?_
        refine Takes.bind (next_takes 92 _) ?_
        dsimp only
        rw [if_neg (by decide), if_pos rfl]
        refine Takes.bind (takes _) ?_
        have behind := ih [] (by simp) (Nat.lt_of_succ_lt_succ enough)
        refine Takes.bind_last behind ?_
        simpa using Takes.pure (plain ++ (Utf8.encodePoint c.toNat ++ Utf8.encodeChars cs)) rest

theorem spelled_takes (s : String) (rest : Bytes) : (spelled (Utf8.encode s)).Takes [] s rest := by
  intro line column
  refine ⟨line, column, ?_⟩
  unfold spelled
  rw [Utf8.decode_encode]
  rfl

theorem string_takes (s : String) (rest : Bytes) :
    string.Takes (Utf8.encodeChars (s.toList.flatMap Json.escape) ++ [34]) s rest := by
  refine Takes.bind_nil (remaining_takes _) ?_
  refine Takes.bind_last (stringBytes_takes s.toList [] (by simp) ?_ rest) ?_
  · have written := length_le_escaped s.toList
    simp only [List.length_append]
    omega
  · exact spelled_takes s rest

/-! ### Whole numbers -/

/-- What may follow a value: nothing, a comma or a closing bracket or brace. -/
def Behind (rest : Bytes) : Prop :=
  ∀ b, rest.head? = some b → b = 44 ∨ b = 93 ∨ b = 125

/-- No digit is dropped if all of them fit. -/
theorem accumulate_eq {n : Nat} {ds : List Nat} (fits : spell n ds < 2 ^ 64) :
    accumulate n ds = (spell n ds, 0) := by
  induction ds generalizing n with
  | nil => rfl
  | cons d ds ih =>
      have first : 10 * n + d < 2 ^ 64 := Nat.lt_of_le_of_lt (le_spell _ ds) fits
      rw [accumulate, if_pos first]
      exact ih fits

theorem digit_takes : ∀ d < 10, Utf8.encodePoint (Nat.digitChar d).toNat = [UInt8.ofNat (48 + d)] ∧
    Cursor.digit? (UInt8.ofNat (48 + d)) = some d := by
  decide

theorem Behind.digit?_eq_none (behind : Behind (b :: rest)) : Cursor.digit? b = none := by
  rcases behind b rfl with rfl | rfl | rfl <;> decide

theorem digits_takes {ds : List Nat} (lt : ∀ d ∈ ds, d < 10) (behind : Behind rest) :
    digits.Takes (Utf8.encodeChars (ds.map Nat.digitChar)) ds rest := by
  have reads (line column : Nat) : Cursor.digits line column
      (Utf8.encodeChars (ds.map Nat.digitChar) ++ rest) =
        (ds, ⟨rest, line, column + ds.length⟩) := by
    induction ds generalizing column with
    | nil =>
        cases rest with
        | nil => rfl
        | cons b rest =>
            show Cursor.digits line column (b :: rest) = _
            rw [Cursor.digits, behind.digit?_eq_none]
            rfl
    | cons d ds ih =>
        obtain ⟨byte, value⟩ := digit_takes d (lt d List.mem_cons_self)
        have start : Utf8.encodeChars ((d :: ds).map Nat.digitChar) =
            UInt8.ofNat (48 + d) :: Utf8.encodeChars (ds.map Nat.digitChar) := by
          rw [List.map_cons, Utf8.encodeChars, List.flatMap_cons, byte]
          rfl
        rw [start, List.cons_append, Cursor.digits, value]
        dsimp only
        rw [ih (fun e he => lt e (List.mem_cons_of_mem _ he))]
        simp only [List.length_cons]
        congr 2
        omega
  intro line column
  exact ⟨line, column + ds.length, congrArg Except.ok (reads line column)⟩

theorem Behind.head?_cases (behind : Behind rest) :
    rest.head? = none ∨ rest.head? = some 44 ∨ rest.head? = some 93 ∨ rest.head? = some 125 := by
  cases h : rest.head? with
  | none => exact .inl rfl
  | some b =>
      rcases behind b h with rfl | rfl | rfl
      · exact .inr (.inl rfl)
      · exact .inr (.inr (.inl rfl))
      · exact .inr (.inr (.inr rfl))

theorem number_takes {n : Nat} (fits : n < 2 ^ 64) (behind : Behind rest) :
    (number false).Takes (Utf8.encodeChars (Nat.toDigits 10 n)) (.natural n) rest := by
  rcases Nat.eq_zero_or_pos n with rfl | pos
  · refine Takes.bind_nil (peek_takes _) ?_
    refine Takes.bind_last (skip_takes 48 rest) ?_
    refine Takes.bind_nil (.pure (0, 0) rest) ?_
    refine Takes.bind_nil (peek_takes rest) ?_
    rcases behind.head?_cases with h | h | h | h <;> rw [h] <;> exact .pure _ rest
  · obtain ⟨d, ds, hd, lt, digits, spells⟩ := exists_digits pos
    obtain ⟨byte, value⟩ := digit_takes d (lt d List.mem_cons_self)
    have start : Utf8.encodeChars (Nat.toDigits 10 n) =
        [UInt8.ofNat (48 + d)] ++ Utf8.encodeChars (ds.map Nat.digitChar) := by
      rw [digits, List.map_cons, Utf8.encodeChars, List.flatMap_cons, byte]
      rfl
    rw [start]
    refine Takes.bind_nil (peek_takes _) ?_
    simp only [List.cons_append, List.nil_append, List.head?_cons, value]
    refine Takes.bind (skip_takes _ _) ?_
    rw [if_neg (by omega)]
    have taken := digits_takes (fun e he => lt e (List.mem_cons_of_mem _ he)) behind
    refine Takes.bind_last (taken.map (accumulate d)) ?_
    rw [accumulate_eq (by rwa [spells]), spells]
    refine Takes.bind_nil (peek_takes rest) ?_
    have nonzero : d ≠ 0 := by omega
    rcases behind.head?_cases with h | h | h | h <;> rw [h] <;> simp only [nonzero] <;>
      exact .pure _ rest

end QuorumVault.Json.Reader
