/-
Decimal digits.

Numbers are written digit by digit, and a reader builds them up again from the front.
`spell` is that building up.
-/
namespace QuorumVault

/-- The number that digits spell behind another one. -/
def spell (n : Nat) (ds : List Nat) : Nat :=
  ds.foldl (fun n d => 10 * n + d) n

theorem spell_append (n : Nat) (ds ds' : List Nat) : spell n (ds ++ ds') = spell (spell n ds) ds' :=
  List.foldl_append

/-- What digits spell is no less than the number they stand behind. -/
theorem le_spell (n : Nat) (ds : List Nat) : n ≤ spell n ds := by
  induction ds generalizing n with
  | nil => exact Nat.le_refl n
  | cons d ds ih => exact Nat.le_trans (by omega) (ih (10 * n + d))

theorem spell_replicate_zero (k : Nat) (ds : List Nat) :
    spell 0 (List.replicate k 0 ++ ds) = spell 0 ds := by
  induction k with
  | zero => rfl
  | succ k ih => exact ih

/-- The decimal digits of a number spell it, and the first of them is not zero. -/
theorem exists_digits {n : Nat} (pos : 0 < n) : ∃ d ds, 0 < d ∧ (∀ e ∈ d :: ds, e < 10) ∧
    Nat.toDigits 10 n = (d :: ds).map Nat.digitChar ∧ spell d ds = n := by
  induction n using Nat.strongRecOn with
  | ind n ih =>
      rw [Nat.toDigits_eq_if (by decide)]
      by_cases small : n < 10
      · rw [if_pos small]
        exact ⟨n, [], pos, by simpa using small, rfl, rfl⟩
      · rw [if_neg small]
        obtain ⟨d, ds, hd, lt, digits, spells⟩ := ih (n / 10) (by omega) (by omega)
        refine ⟨d, ds ++ [n % 10], hd, ?_, by simp [digits], ?_⟩
        · intro e he
          rcases List.mem_append.1 (show e ∈ (d :: ds) ++ [n % 10] from he) with he | he
          · exact lt e he
          · rw [List.mem_singleton.1 he]
            omega
        · rw [spell_append, spells]
          show 10 * (n / 10) + n % 10 = n
          omega

/-- The decimal digits of any number spell it. -/
theorem exists_toDigits (n : Nat) : ∃ ds, ds ≠ [] ∧ (∀ e ∈ ds, e < 10) ∧
    Nat.toDigits 10 n = ds.map Nat.digitChar ∧ spell 0 ds = n := by
  rcases Nat.eq_zero_or_pos n with rfl | pos
  · exact ⟨[0], nofun, by simp, rfl, rfl⟩
  · obtain ⟨d, ds, -, lt, digits, spells⟩ := exists_digits pos
    refine ⟨d :: ds, nofun, lt, digits, ?_⟩
    show spell (10 * 0 + d) ds = n
    rw [Nat.mul_zero, Nat.zero_add, spells]

end QuorumVault
