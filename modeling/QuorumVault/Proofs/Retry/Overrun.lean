/-
How far a run outlasts the time for everything.

The time for everything is looked at around the attempts only.  It ends the attempt under
way, and one that begins later has no time but that moment; but the pauses lie outside
of it, and as long as attempts fail at once there is another pause, and another attempt
behind it.  So a run ends, and its attempts begin, no more than the pauses later than
they should; and a single pause can make it late.
-/
import QuorumVault.Proofs.Retry.Conduct

namespace QuorumVault.RetryPolicy

open Run

variable {ε ρ σ α : Type} {p : RetryPolicy} {label : String} {op : Nat → Run ε ρ σ α}
  {w : World ε ρ σ} {deadline : Duration}

theorem due_eq (limited : p.overallDeadline = some deadline) (started start : Time) :
    p.due started start = some (max start (started + deadline)) := by
  rw [RetryPolicy.due, limited, Option.map_some]

/-- With every attempt, no more than a pause is added to what has passed of the time. -/
theorem now_outset_le (limited : p.overallDeadline = some deadline) (before : Nat)
    (passed : ∀ earlier < before, p.Passes label op w earlier) :
    (p.outset label op w before).now ≤ w.now + deadline + before * p.backoff.pause := by
  induction before with
  | zero => exact Nat.le_trans (Nat.le_add_right w.now deadline) (Nat.le_add_right _ _)
  | succ before ih =>
      have began := ih fun earlier lt => passed earlier (Nat.lt_succ_of_lt lt)
      obtain ⟨inTime, -⟩ := passed before (Nat.lt_succ_self before)
      have ended : (p.alone label op w before).2.now ≤
          w.now + deadline + before * p.backoff.pause := by
        calc (p.alone label op w before).2.now
            ≤ max (p.outset label op w before).now (w.now + deadline) :=
              inTime.2 _ (due_eq limited _ _)
          _ ≤ _ := Nat.max_le.2 ⟨began, Nat.le_add_right _ _⟩
      rw [now_outset_succ, Nat.succ_mul, ← Nat.add_assoc]
      exact Nat.add_le_add_right ended _

/-- A run ends when its last attempt is to be left, or before. -/
theorem Conducted.now_le {before : Nat} {out : Ending α × World ε ρ σ}
    (conducted : p.Conducted label op w before out)
    (limited : p.overallDeadline = some deadline) :
    out.2.now ≤ max (p.outset label op w before).now (w.now + deadline) := by
  have due := due_eq limited w.now (p.outset label op w before).now
  cases conducted.concluded with
  | done alone inTime | fatal alone inTime | exhausted alone inTime | overflow alone inTime =>
      have soon := inTime.2 _ due
      rwa [alone] at soon
  | overdue _ _ now_eq => exact Nat.le_of_eq (Option.some.inj (now_eq.symm.trans due))
  | endless _ unlimited => cases limited.symm.trans unlimited

/-- A run ends no more than its pauses after the time for everything is up, and no attempt begins
later than the pauses before it allow. -/
theorem run_overruns_by_pauses (pos : 0 < p.maxAttempts) (conductible : Conductible op)
    (limited : p.overallDeadline = some deadline) :
    (p.run label op none w).2.now ≤
        w.now + deadline + (p.maxAttempts - 1) * min p.backoff Duration.longestPause ∧
      ∃ begun, (p.run label op none w).2.trace.attempts = w.trace.attempts ++ begun ∧
        ∀ number start, (number, start) ∈ begun → 0 < number ∧ number ≤ p.maxAttempts ∧
          start ≤ w.now + deadline + (number - 1) * min p.backoff Duration.longestPause := by
  have continues : p.Continues label op w 0 (p.run label op none w) := run_continues pos conductible
  obtain ⟨before, conducted⟩ := continues.conducted conductible
  have began (n : Nat) (le : n ≤ before) := now_outset_le limited n fun earlier lt =>
    conducted.passed earlier (Nat.lt_of_lt_of_le lt le)
  constructor
  · have fewer : before ≤ p.maxAttempts - 1 := Nat.le_sub_one_of_lt conducted.counted
    calc (p.run label op none w).2.now
        ≤ max (p.outset label op w before).now (w.now + deadline) := conducted.now_le limited
      _ ≤ w.now + deadline + before * p.backoff.pause :=
        Nat.max_le.2 ⟨began before (Nat.le_refl _), Nat.le_add_right _ _⟩
      _ ≤ _ := Nat.add_le_add_left (Nat.mul_le_mul_right _ fewer) _
  · refine ⟨_, conducted.made, fun number start mem => ?_⟩
    obtain ⟨n, within, made⟩ := List.mem_map.1 mem
    have le : n ≤ before := Nat.le_of_lt_succ (List.mem_range.1 within)
    cases made
    exact ⟨Nat.succ_pos n, Nat.lt_of_le_of_lt le conducted.counted, began n le⟩

theorem run_overruns_by_pauses_late :
    let p : RetryPolicy := ⟨4, 10, some 97⟩
    let op : Nat → Run Unit Unit Unit Nat := scripted fun _ => (some 40, .error (.of .timeout "late"))
    let w : World Unit Unit Unit := .start (fun _ => ()) () ()
    0 < p.maxAttempts ∧ Conductible op ∧ p.overallDeadline = some 97 ∧
      (p.run "round" op none w).2.now ≤ 0 + 97 + (4 - 1) * min 10 Duration.longestPause ∧
      ∃ begun, (p.run "round" op none w).2.trace.attempts = [] ++ begun ∧
        ∀ number start, (number, start) ∈ begun → 0 < number ∧ number ≤ 4 ∧
          start ≤ 0 + 97 + (number - 1) * min 10 Duration.longestPause :=
  ⟨by decide, conductible_scripted _, rfl,
    run_overruns_by_pauses (by decide) (conductible_scripted _) rfl⟩

/-- The pause behind the second attempt outlasts the time for everything: another one begins, and the
run ends, three milliseconds too late. -/
theorem run_outlasts_deadline :
    let p : RetryPolicy := ⟨4, 10, some 97⟩
    let op : Nat → Run Unit Unit Unit Nat := scripted fun _ => (some 40, .error (.of .timeout "late"))
    let out := p.run "round" op none (.start (fun _ => ()) () ())
    out.1 = .failed (overdue "round" 97) ∧ out.2.now = 100 ∧
      out.2.trace.attempts = [(1, 0), (2, 50), (3, 100)] ∧ 97 < 100 :=
  ⟨rfl, rfl, rfl, by decide⟩

end QuorumVault.RetryPolicy
