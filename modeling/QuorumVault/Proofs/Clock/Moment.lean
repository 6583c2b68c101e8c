/-
Moments are read back as they were written.

Every number of a moment is written with a known count of digits or is followed by
something that is no digit, and no white space is written; so each reader takes what
its writer wrote and leaves the rest.
-/
import QuorumVault.Clock.Moment
import QuorumVault.Proofs.Text.Digits

namespace QuorumVault.Moment

/-- No digit stands in front. -/
def NoDigit (cs : List Char) : Prop :=
  ∀ c, cs.head? = some c → digit? c = none

theorem noDigit_cons {c : Char} (h : digit? c = none) (cs : List Char) : NoDigit (c :: cs) := by
  intro d hd
  rw [← Option.some.inj hd, h]

theorem digit_char : ∀ d < 10, digit? (Nat.digitChar d) = some d ∧
    Text.isBlank (Nat.digitChar d) = false ∧ Char.ofNat (48 + d) = Nat.digitChar d := by
  decide

theorem dropBlank_cons {c : Char} (solid : Text.isBlank c = false) (rest : List Char) :
    Text.dropBlank (c :: rest) = c :: rest := by
  unfold Text.dropBlank
  rw [List.dropWhile_cons_of_neg (by simp [solid])]

theorem dropBlank_digits {ds : List Nat} (some : ds ≠ []) (lt : ∀ d ∈ ds, d < 10)
    (rest : List Char) :
    Text.dropBlank (ds.map Nat.digitChar ++ rest) = ds.map Nat.digitChar ++ rest := by
  cases ds with
  | nil => exact absurd rfl some
  | cons d ds => exact dropBlank_cons (digit_char d (lt d List.mem_cons_self)).2.1 _

/-! ### Numbers -/

/-- Digits are read as far as they go or as far as they may go. -/
theorem moreDigits_eq {ds : List Nat} (lt : ∀ d ∈ ds, d < 10) {width n : Nat} {rest : List Char}
    (short : ds.length ≤ width) (stops : ds.length = width ∨ NoDigit rest)
    (fits : spell n ds < 2 ^ 63) :
    moreDigits width n (ds.map Nat.digitChar ++ rest) = .ok (spell n ds, rest) := by
  induction ds generalizing width n with
  | nil =>
      cases width with
      | zero => rfl
      | succ width =>
          cases rest with
          | nil => rfl
          | cons c rest =>
              rcases stops with stops | stops
              · cases stops
              · show moreDigits (width + 1) n (c :: rest) = _
                rw [moreDigits, stops c rfl]
                rfl
  | cons d ds ih =>
      obtain ⟨width, rfl⟩ : ∃ k, width = k + 1 := Nat.exists_eq_add_one.2
        (Nat.lt_of_lt_of_le (Nat.succ_pos _) short)
      have value := (digit_char d (lt d List.mem_cons_self)).1
      have first : ¬2 ^ 63 ≤ 10 * n + d := Nat.not_le.2 (Nat.lt_of_le_of_lt (le_spell _ ds) fits)
      rw [List.map_cons, List.cons_append, moreDigits, value]
      dsimp only
      rw [if_neg first]
      exact ih (fun e he => lt e (List.mem_cons_of_mem _ he)) (Nat.le_of_succ_le_succ short)
        (stops.imp_left Nat.succ.inj) fits

theorem number_eq {ds : List Nat} (some : ds ≠ []) (lt : ∀ d ∈ ds, d < 10) {width : Nat}
    {rest : List Char} (short : ds.length ≤ width) (stops : ds.length = width ∨ NoDigit rest)
    (fits : spell 0 ds < 2 ^ 63) :
    number width (ds.map Nat.digitChar ++ rest) = .ok (spell 0 ds, rest) := by
  cases ds with
  | nil => exact absurd rfl some
  | cons d ds =>
      have value := (digit_char d (lt d List.mem_cons_self)).1
      have same : spell 0 (d :: ds) = spell d ds := by
        show spell (10 * 0 + d) ds = _
        rw [Nat.mul_zero, Nat.zero_add]
      rw [List.length_cons] at short stops
      rw [same] at fits ⊢
      rw [List.map_cons, List.cons_append, number, value]
      exact moreDigits_eq (fun e he => lt e (List.mem_cons_of_mem _ he)) (by omega)
        (stops.imp_left fun h => by omega) fits

/-- The last digits of a number are as many as asked for, and spell what they leave of it. -/
theorem exists_lastDigits (width n : Nat) : ∃ ds, ds.length = width ∧ (∀ d ∈ ds, d < 10) ∧
    lastDigits width n = ds.map Nat.digitChar ∧ spell 0 ds = n % 10 ^ width := by
  induction width generalizing n with
  | zero => exact ⟨[], rfl, nofun, rfl, by rw [Nat.pow_zero, Nat.mod_one]; rfl⟩
  | succ width ih =>
      obtain ⟨ds, length, lt, digits, spells⟩ := ih (n / 10)
      refine ⟨ds ++ [n % 10], by simp [length], ?_, ?_, ?_⟩
      · intro d hd
        rcases List.mem_append.1 hd with hd | hd
        · exact lt d hd
        · rw [List.mem_singleton.1 hd]
          omega
      · rw [lastDigits, digits, (digit_char (n % 10) (by omega)).2.2]
        simp
      · rw [spell_append, spells]
        show 10 * (n / 10 % 10 ^ width) + n % 10 = n % 10 ^ (width + 1)
        rw [Nat.pow_succ', Nat.mod_mul]
        omega

theorem field_eq {n low high : Nat} (small : n < 100) (above : low ≤ n) (below : n ≤ high)
    (rest : List Char) : field 2 low high (lastDigits 2 n ++ rest) = .ok (n, rest) := by
  obtain ⟨ds, length, lt, digits, spells⟩ := exists_lastDigits 2 n
  have value : spell 0 ds = n := spells.trans (Nat.mod_eq_of_lt small)
  have nonempty : ds ≠ [] := by
    rintro rfl
    cases length
  have read : number 2 (ds.map Nat.digitChar ++ rest) = .ok (spell 0 ds, rest) :=
    number_eq nonempty lt (Nat.le_of_eq length) (.inl length) (by omega)
  unfold field
  rw [digits, dropBlank_digits nonempty lt, read, value]
  show (if low ≤ n ∧ n ≤ high then Pure.pure (n, rest) else throw Fault.outOfRange) = _
  rw [if_pos ⟨above, below⟩]
  rfl

/-! ### Parts of a moment -/

theorem mark_eq {c : Char} (solid : Text.isBlank c = false) (rest : List Char) :
    mark c (c :: rest) = .ok rest := by
  unfold mark
  rw [dropBlank_cons solid]
  exact if_pos rfl

theorem exists_yearDigits (n : Nat) : ∃ ds, ds ≠ [] ∧ (∀ d ∈ ds, d < 10) ∧
    List.replicate (4 - (Nat.toDigits 10 n).length) '0' ++ Nat.toDigits 10 n =
      ds.map Nat.digitChar ∧ spell 0 ds = n ∧ (n < 10000 → ds.length = 4) := by
  obtain ⟨ds, nonempty, lt, digits, spells⟩ := exists_toDigits n
  refine ⟨List.replicate (4 - ds.length) 0 ++ ds, by simp [nonempty], ?_, ?_, ?_, ?_⟩
  · intro d hd
    rcases List.mem_append.1 hd with hd | hd
    · rw [List.eq_of_mem_replicate hd]
      decide
    · exact lt d hd
  · rw [digits, List.map_append, List.map_replicate, List.length_map]
    rfl
  · rw [spell_replicate_zero, spells]
  · intro small
    have short : (Nat.toDigits 10 n).length ≤ 4 :=
      (Nat.length_toDigits_le_iff (by decide) (by decide)).2 small
    rw [digits, List.length_map] at short
    rw [List.length_append, List.length_replicate]
    omega

theorem year_minus {digits rest : List Char} {n : Nat}
    (read : number digits.length digits = .ok (n, rest)) (small : n < 2 ^ 31) :
    year ('-' :: digits) = .ok (-(n : Int), rest) := by
  have bounds : -(2 ^ 31) ≤ -(n : Int) ∧ -(n : Int) < 2 ^ 31 := by omega
  unfold year
  rw [dropBlank_cons (by decide)]
  simp only [read, Except.map, bind, Except.bind]
  rw [if_pos bounds]
  rfl

theorem year_plus {digits rest : List Char} {n : Nat}
    (read : number digits.length digits = .ok (n, rest)) (small : n < 2 ^ 31) :
    year ('+' :: digits) = .ok ((n : Int), rest) := by
  have bounds : -(2 ^ 31) ≤ (n : Int) ∧ (n : Int) < 2 ^ 31 := by omega
  unfold year
  rw [dropBlank_cons (by decide)]
  simp only [read, Except.map, bind, Except.bind]
  rw [if_pos bounds]
  rfl

theorem year_plain {d : Nat} (digit : d < 10) {cs rest : List Char} {n : Nat}
    (read : number 4 (Nat.digitChar d :: cs) = .ok (n, rest)) (small : n < 2 ^ 31) :
    year (Nat.digitChar d :: cs) = .ok ((n : Int), rest) := by
  have bounds : -(2 ^ 31) ≤ (n : Int) ∧ (n : Int) < 2 ^ 31 := by omega
  have unsigned : ∀ d < 10, Nat.digitChar d ≠ '-' ∧ Nat.digitChar d ≠ '+' := by decide
  unfold year
  rw [dropBlank_cons (digit_char d digit).2.1]
  dsimp only
  split
  next h => exact absurd (List.cons.inj h).1 (unsigned d digit).1
  next h => exact absurd (List.cons.inj h).1 (unsigned d digit).2
  next =>
    simp only [read, Except.map, bind, Except.bind]
    rw [if_pos bounds]
    rfl

theorem year_eq {y : Int} (low : minYear ≤ y) (high : y ≤ maxYear) (rest : List Char) :
    year (yearText y ++ '-' :: rest) = .ok (y, '-' :: rest) := by
  unfold minYear at low
  unfold maxYear at high
  obtain ⟨ds, nonempty, lt, digits, spells, four⟩ := exists_yearDigits y.natAbs
  have stops : NoDigit ('-' :: rest) := noDigit_cons (by decide) rest
  have read (width : Nat) (short : ds.length ≤ width) :
      number width (ds.map Nat.digitChar ++ '-' :: rest) = .ok (y.natAbs, '-' :: rest) := by
    rw [number_eq nonempty lt short (.inr stops) (by omega), spells]
  unfold yearText
  dsimp only
  rw [digits]
  by_cases negative : y < 0
  · rw [if_pos negative, List.cons_append, year_minus (read _ (by simp)) (by omega)]
    congr 2
    omega
  rw [if_neg negative]
  have same : (y.natAbs : Int) = y := Int.natAbs_of_nonneg (Int.not_lt.1 negative)
  by_cases large : 9999 < y
  · rw [if_pos large, List.cons_append, year_plus (read _ (by simp)) (by omega), same]
  · rw [if_neg large]
    have plain := read 4 (Nat.le_of_eq (four (by omega)))
    cases ds with
    | nil => exact absurd rfl nonempty
    | cons d ds =>
        rw [List.map_cons, List.cons_append] at plain ⊢
        rw [year_plain (lt d List.mem_cons_self) plain (by omega), same]

/-- A fraction of a second is read back in nanoseconds, up to the mark of universal time. -/
theorem fraction_digits {ds : List Nat} (some : ds ≠ []) (lt : ∀ d ∈ ds, d < 10)
    (short : ds.length ≤ 9) (fits : spell 0 ds < 2 ^ 63) :
    fraction ('.' :: (ds.map Nat.digitChar ++ ['Z'])) =
      .ok (spell 0 ds * 10 ^ (9 - ds.length), ['Z']) := by
  have read := number_eq some lt short (.inr (noDigit_cons (c := 'Z') (by decide) [])) fits
  unfold fraction
  simp only [read, bind, Except.bind]
  rw [List.length_append, List.length_map, Nat.add_sub_cancel]
  rfl

theorem fraction_lastDigits {width n : Nat} (some : width ≠ 0) (short : width ≤ 9)
    (small : n < 10 ^ width) :
    fraction ('.' :: lastDigits width n ++ ['Z']) = .ok (n * 10 ^ (9 - width), ['Z']) := by
  obtain ⟨ds, length, lt, digits, spells⟩ := exists_lastDigits width n
  have nonempty : ds ≠ [] := by
    rintro rfl
    exact some length.symm
  have bound : 10 ^ width ≤ 10 ^ 9 := Nat.pow_le_pow_right (by decide) short
  rw [Nat.mod_eq_of_lt small] at spells
  rw [digits, List.cons_append, fraction_digits nonempty lt (by omega) (by omega), spells, length]

theorem fraction_eq {n : Nat} (small : n < 1000000000) :
    fraction (fractionText n ++ ['Z']) = .ok (n, ['Z']) := by
  unfold fractionText
  by_cases whole : n = 0
  · rw [if_pos whole, whole]
    rfl
  rw [if_neg whole]
  by_cases millis : n % 1000000 = 0
  · rw [if_pos millis, fraction_lastDigits (by decide) (by decide) (by omega)]
    congr 2
    omega
  rw [if_neg millis]
  by_cases micros : n % 1000 = 0
  · rw [if_pos micros, fraction_lastDigits (by decide) (by decide) (by omega)]
    congr 2
    omega
  · rw [if_neg micros, fraction_lastDigits (by decide) (by decide) small, Nat.sub_self,
      Nat.pow_zero, Nat.mul_one]

/-- The moment of a day and time in universal time. -/
theorem ofLocal_eq (m : Moment) :
    ofLocal ⟨m.date.year, m.date.month, m.date.day⟩ (60 * (m.minute / 60) + m.minute % 60)
      m.second m.nanosecond 0 = .ok m := by
  have early : ¬(m.minute : Int) < 0 := by omega
  have late : ¬1440 ≤ (m.minute : Int) := by
    have := m.minute_lt
    omega
  unfold ofLocal
  rw [if_neg (not_not_intro m.date_valid), if_neg (by decide), Nat.div_add_mod]
  simp only [Int.sub_zero, if_neg early, if_neg late, Int.toNat_natCast]
  exact dif_pos ⟨m.date_valid, m.minute_lt, m.second_le, m.nanosecond_lt⟩

/-- A moment is read as it was written. -/
theorem ofText_text (m : Moment) : ofText m.text = .ok m := by
  have valid := m.date_valid
  have days : daysInMonth m.date.year m.date.month ≤ 31 := by
    unfold daysInMonth
    split
    · split <;> decide
    · split <;> decide
  unfold Day.Valid at valid
  have minute := m.minute_lt
  have second := m.second_le
  unfold ofText text
  rw [String.toList_ofList]
  unfold ofChars textChars
  simp only [List.append_assoc, List.cons_append]
  rw [year_eq valid.1 valid.2.1]
  dsimp only [bind, Except.bind]
  rw [mark_eq (by decide)]
  dsimp only
  rw [field_eq (by omega) (by omega) (by omega)]
  dsimp only
  rw [mark_eq (by decide)]
  dsimp only
  rw [field_eq (by omega) (by omega) (by omega)]
  dsimp only [separator]
  rw [if_pos (.inr (.inl rfl))]
  dsimp only
  rw [field_eq (by omega) (by omega) (by omega)]
  dsimp only
  rw [mark_eq (by decide)]
  dsimp only
  rw [field_eq (by omega) (by omega) (by omega)]
  dsimp only
  rw [mark_eq (by decide)]
  dsimp only
  rw [field_eq (by omega) (by omega) (by omega)]
  dsimp only
  rw [fraction_eq m.nanosecond_lt]
  dsimp only
  rw [show zone ['Z'] = .ok (0, []) by rfl]
  exact ofLocal_eq m

end QuorumVault.Moment
