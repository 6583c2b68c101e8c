/-
How attempts are conducted.

A policy is compared with what the attempts do by themselves.  `outset` is the world in
which an attempt begins if every one before it took the time that it needs and failed;
the pauses lie in between.  The first attempt that succeeds, that fails for good or that
does not come out by the time that is left for it is the last one, or else the last one
that the policy has; and it alone decides what comes of the run.

The pauses are those of the policy up to the longest one that anyone makes.
-/
import QuorumVault.Proofs.Retry.Budget
import QuorumVault.Proofs.Run.Timed

namespace QuorumVault

/-- The attempts that began, with their moments, in order. -/
def Trace.attempts (t : Trace) : List (Nat × Time) :=
  t.reverse.filterMap fun
    | (time, .attempt _ number) => some (number, time)
    | _ => none

theorem Trace.attempts_cons_attempt (t : Trace) (time : Time) (label : String) (number : Nat) :
    Trace.attempts ((time, .attempt label number) :: t) = t.attempts ++ [(number, time)] := by
  simp [Trace.attempts]

namespace RetryPolicy

open Run

variable {ε ρ σ α : Type}

/-- The attempts may be timed, and what they do is not attempted by itself. -/
structure Conductible (op : Nat → Run ε ρ σ α) : Prop where
  timed : ∀ number, (op number).Timed
  plain : ∀ number limit w, (op number limit w).2.trace.attempts = w.trace.attempts

/-- Until when an attempt may go on that begins at a moment: till the time for everything is up, and
no less than at once. -/
def due (p : RetryPolicy) (started start : Time) : Option Time :=
  p.overallDeadline.map fun deadline => max start (started + deadline)

section

variable (p : RetryPolicy) (label : String) (op : Nat → Run ε ρ σ α) (w : World ε ρ σ)

/-- The world in which the attempt behind so many others begins if all of those fail in time. -/
def outset : Nat → World ε ρ σ
  | 0 => w.record (.attempt label 1)
  | before + 1 =>
    let left := (op (before + 1) none (outset before)).2
    (left.advanceTo (left.now + p.backoff.pause)).record (.attempt label (before + 2))

/-- How the attempt behind so many others comes out by itself. -/
def alone (before : Nat) : Ending α × World ε ρ σ :=
  op (before + 1) none (p.outset label op w before)

/-- The attempt behind so many others comes out in time. -/
def InTime (before : Nat) : Prop :=
  ComesBy (p.due w.now (p.outset label op w before).now) (p.alone label op w before)

/-- The attempt behind so many others fails in time, in a way that may pass. -/
def Passes (before : Nat) : Prop :=
  p.InTime label op w before ∧
    ∃ e, (p.alone label op w before).1 = .failed e ∧ e.retryable = true

/-- What comes of a run whose last attempt is the one behind so many others. -/
inductive Concludes (before : Nat) : Ending α × World ε ρ σ → Prop
  | done {x w'} (alone : p.alone label op w before = (.done x, w'))
      (inTime : p.InTime label op w before) : Concludes before (.done x, w')
  | fatal {e w'} (alone : p.alone label op w before = (.failed e, w'))
      (inTime : p.InTime label op w before) (final : e.retryable = false) :
      Concludes before (.failed e, w')
  | exhausted {e w'} (alone : p.alone label op w before = (.failed e, w'))
      (inTime : p.InTime label op w before) (passing : e.retryable = true)
      (last : before + 1 = p.maxAttempts) :
      Concludes before (.failed (.exhausted label p.maxAttempts e), w')
  | overdue {deadline w'} (limited : p.overallDeadline = some deadline)
      (late : ¬p.InTime label op w before)
      (now_eq : p.due w.now (p.outset label op w before).now = some w'.now) :
      Concludes before (.failed (overdue label deadline), w')
  | endless {w'} (alone : p.alone label op w before = (.endless, w'))
      (unlimited : p.overallDeadline = none) : Concludes before (.endless, w')
  | overflow {w'} (alone : p.alone label op w before = (.overflow, w'))
      (inTime : p.InTime label op w before) : Concludes before (.overflow, w')

/-- The attempts of a run, the last of which is the one behind so many others. -/
structure Conducted (before : Nat) (out : Ending α × World ε ρ σ) : Prop where
  counted : before < p.maxAttempts
  passed : ∀ earlier < before, p.Passes label op w earlier
  /-- The last attempt does not fail in this way, unless it is the last one that the policy has. -/
  last : before + 1 = p.maxAttempts ∨ ¬p.Passes label op w before
  made : out.2.trace.attempts = w.trace.attempts ++
    (List.range (before + 1)).map fun n => (n + 1, (p.outset label op w n).now)
  atOnce : (p.outset label op w 0).now = w.now
  /-- Every attempt but the first begins a pause behind the end of the one before it. -/
  paused : ∀ earlier < before, (p.outset label op w (earlier + 1)).now =
    (p.alone label op w earlier).2.now + min p.backoff Duration.longestPause
  concluded : p.Concludes label op w before out
  /-- What may pass is not failed with, except for running out of time. -/
  covered : ∀ e, out.1 = .failed e → e.retryable = true →
    ¬p.InTime label op w before ∧ ∃ deadline, p.overallDeadline = some deadline ∧
      e = .of .timeout (label ++ " exceeded overall deadline of " ++ deadline.describe)

end

section

variable {p : RetryPolicy} {label : String} {op : Nat → Run ε ρ σ α} {w : World ε ρ σ}

theorem now_outset_succ (before : Nat) : (p.outset label op w (before + 1)).now =
    (p.alone label op w before).2.now + p.backoff.pause :=
  Nat.max_eq_right (Nat.le_add_right _ _)

theorem now_le_outset (conductible : Conductible op) (before : Nat) :
    w.now ≤ (p.outset label op w before).now := by
  induction before with
  | zero => exact Nat.le_refl _
  | succ before ih =>
      rw [now_outset_succ]
      calc w.now ≤ (p.outset label op w before).now := ih
        _ ≤ (p.alone label op w before).2.now := (conductible.timed _).onward _
        _ ≤ _ := Nat.le_add_right _ _

theorem attempts_outset (conductible : Conductible op) (before : Nat) :
    (p.outset label op w before).trace.attempts = w.trace.attempts ++
      (List.range (before + 1)).map fun n => (n + 1, (p.outset label op w n).now) := by
  induction before with
  | zero => exact Trace.attempts_cons_attempt _ _ _ _
  | succ before ih =>
      have plain := conductible.plain (before + 1) none (p.outset label op w before)
      rw [List.range_succ, List.map_append, ← List.append_assoc, ← ih, ← plain]
      exact Trace.attempts_cons_attempt _ _ _ _

/-- The limit of an attempt is its share of the time for everything. -/
theorem attemptDeadline_eq_due {v : World ε ρ σ} (begun : w.now ≤ v.now) :
    p.attemptDeadline w.now v = p.due w.now v.now := by
  unfold attemptDeadline due
  cases p.overallDeadline with
  | none => rfl
  | some deadline =>
      refine congrArg some ?_
      show v.now + (deadline - (v.now - w.now)) = max v.now (w.now + deadline)
      unfold Time Duration at *
      omega

theorem le_of_due {started start last : Time} (h : p.due started start = some last) :
    start ≤ last := by
  unfold due at h
  obtain ⟨deadline, -, rfl⟩ := Option.map_eq_some_iff.1 h
  exact Nat.le_max_left _ _

/-! ### One attempt after another -/

/-- What the next attempt and all behind it come to. -/
def Continues (p : RetryPolicy) (label : String) (op : Nat → Run ε ρ σ α) (w : World ε ρ σ)
    (before : Nat) (out : Ending α × World ε ρ σ) : Prop :=
  ∃ final, before ≤ final ∧ final < p.maxAttempts ∧
    (∀ n, before ≤ n → n < final → p.Passes label op w n) ∧
    (final + 1 = p.maxAttempts ∨ ¬p.Passes label op w final) ∧
    p.Concludes label op w final out ∧
    ∃ limit, out.2 = (op (final + 1) limit (p.outset label op w final)).2

theorem Continues.of_concludes {before : Nat} {out : Ending α × World ε ρ σ}
    (limit : Option Time) (counted : before < p.maxAttempts)
    (last : before + 1 = p.maxAttempts ∨ ¬p.Passes label op w before)
    (concludes : p.Concludes label op w before out)
    (left : out.2 = (op (before + 1) limit (p.outset label op w before)).2) :
    p.Continues label op w before out :=
  ⟨before, Nat.le_refl _, counted, fun _ le lt => absurd le (Nat.not_le.2 lt), last, concludes, limit,
    left⟩

theorem Continues.after {before : Nat} {out : Ending α × World ε ρ σ}
    (passes : p.Passes label op w before) (next : p.Continues label op w (before + 1) out) :
    p.Continues label op w before out := by
  obtain ⟨final, le, counted, passed, last, concludes, left⟩ := next
  refine ⟨final, Nat.le_of_succ_le le, counted, fun n from_before lt => ?_, last, concludes, left⟩
  rcases Nat.eq_or_lt_of_le from_before with rfl | later
  · exact passes
  · exact passed n later lt

section

variable {before left : Nat} {last : Option Error} {v w' : World ε ρ σ}

/-- The attempts that are left go on as the next one does, with its share of the time. -/
theorem attempts_eq (conductible : Conductible op) (split : before + (left + 1) = p.maxAttempts)
    (begins : v.record (.attempt label (before + 1)) = p.outset label op w before) :
    p.attempts label w.now op (left + 1) last none v =
      match op (before + 1) (p.due w.now (p.outset label op w before).now)
        (p.outset label op w before) with
      | (.done x, w') => (.done x, w')
      | (.failed e, w') => p.afterFailure label w.now op left e none w'
      | (.cut, w') =>
        (if (p.due w.now (p.outset label op w before).now).isNone then .cut
          else .failed (overdue label (p.overallDeadline.getD 0)), w')
      | (.endless, w') => (.endless, w')
      | (.overflow, w') => (.overflow, w') := by
  have number : p.maxAttempts - left = before + 1 := by omega
  rw [attempts_succ, number, begins]
  dsimp only
  rw [attemptDeadline_eq_due (now_le_outset conductible before)]
  cases p.due w.now (p.outset label op w before).now <;> rfl

/-- An attempt that does not come out in time is cut off then, or nothing limits it and it never
comes out. -/
theorem continues_of_late (conductible : Conductible op)
    (split : before + (left + 1) = p.maxAttempts)
    (begins : v.record (.attempt label (before + 1)) = p.outset label op w before)
    (late : ¬p.InTime label op w before) :
    p.Continues label op w before (p.attempts label w.now op (left + 1) last none v) := by
  have counted : before < p.maxAttempts := by omega
  have final : ¬p.Passes label op w before := fun passes => late passes.1
  rw [attempts_eq conductible split begins]
  rcases (conductible.timed (before + 1)).late_cases (fun _ => le_of_due) late with
    ⟨unlimited, w', alone⟩ | ⟨w', due, cut⟩
  · rw [unlimited, alone]
    refine .of_concludes none counted (.inr final) (.endless alone ?_) (by rw [alone])
    exact Option.map_eq_none_iff.1 unlimited
  · have ⟨deadline, limited, _⟩ := Option.map_eq_some_iff.1 due
    rw [cut, due, limited]
    refine .of_concludes (some w'.now) counted (.inr final) (.overdue limited late due) ?_
    rw [← due, cut]

/-- An attempt that succeeds, or fails for good, is the last one. -/
theorem continues_of_final (conductible : Conductible op)
    (split : before + (left + 1) = p.maxAttempts)
    (begins : v.record (.attempt label (before + 1)) = p.outset label op w before)
    (inTime : p.InTime label op w before)
    (final : ¬∃ e, (p.alone label op w before).1 = .failed e ∧ e.retryable = true) :
    p.Continues label op w before (p.attempts label w.now op (left + 1) last none v) := by
  have counted : before < p.maxAttempts := by omega
  have last : before + 1 = p.maxAttempts ∨ ¬p.Passes label op w before :=
    .inr fun passes => final passes.2
  have timed := conductible.timed (before + 1)
  rw [attempts_eq conductible split begins, timed.eq_of_comesBy (fun _ => le_of_due) inTime]
  rcases alone : p.alone label op w before with ⟨e, w'⟩
  have run : op (before + 1) none (p.outset label op w before) = (e, w') := alone
  rw [run]
  cases e with
  | done x => exact .of_concludes none counted last (.done alone inTime) (by rw [run])
  | failed e =>
      have fatal : e.retryable = false := by
        refine Bool.not_eq_true _ ▸ fun passing => final ⟨e, by rw [alone], passing⟩
      have stays : p.afterFailure label w.now op left e none w' = (.failed e, w') := by
        unfold afterFailure
        rw [if_neg (by simp [fatal])]
        rfl
      dsimp only
      rw [stays]
      exact .of_concludes none counted last (.fatal alone inTime fatal) (by rw [run])
  | cut => exact absurd (congrArg Prod.fst alone) (timed.uncut _)
  | endless => exact absurd (congrArg Prod.fst alone) inTime.1
  | overflow => exact .of_concludes none counted last (.overflow alone inTime) (by rw [run])

/-- After one that fails in a way that may pass, the others follow behind a pause. -/
theorem attempts_of_passes (conductible : Conductible op)
    (split : before + (left + 1) = p.maxAttempts)
    (begins : v.record (.attempt label (before + 1)) = p.outset label op w before)
    (inTime : p.InTime label op w before) {e : Error}
    (alone : p.alone label op w before = (.failed e, w')) (passing : e.retryable = true) :
    p.attempts label w.now op (left + 1) last none v =
      p.attempts label w.now op left (some e) none (p.rested left w') := by
  have timed := conductible.timed (before + 1)
  have run : op (before + 1) none (p.outset label op w before) = (.failed e, w') := alone
  rw [attempts_eq conductible split begins, timed.eq_of_comesBy (fun _ => le_of_due) inTime, run]
  exact goOn_of_retryable passing left w'

/-- An attempt is conducted as it should be if those behind it are. -/
theorem attempts_continue_succ (conductible : Conductible op)
    (split : before + (left + 1) = p.maxAttempts)
    (begins : v.record (.attempt label (before + 1)) = p.outset label op w before)
    (next : ∀ left', left = left' + 1 → ∀ (last : Option Error) (v : World ε ρ σ),
      v.record (.attempt label (before + 2)) = p.outset label op w (before + 1) →
      p.Continues label op w (before + 1) (p.attempts label w.now op left last none v)) :
    p.Continues label op w before (p.attempts label w.now op (left + 1) last none v) := by
  by_cases inTime : p.InTime label op w before
  case neg => exact continues_of_late conductible split begins inTime
  by_cases passes : ∃ e, (p.alone label op w before).1 = .failed e ∧ e.retryable = true
  case neg => exact continues_of_final conductible split begins inTime passes
  obtain ⟨e, failed, passing⟩ := passes
  have alone : p.alone label op w before = (.failed e, (p.alone label op w before).2) :=
    Prod.ext failed rfl
  rw [attempts_of_passes conductible split begins inTime alone passing]
  cases left with
  | zero =>
      exact .of_concludes none (Nat.lt_of_succ_le (Nat.le_of_eq split)) (.inl split)
        (.exhausted alone inTime passing split) rfl
  | succ left => exact .after ⟨inTime, e, failed, passing⟩ (next left rfl (some e) _ rfl)

end

/-- As many attempts as are left are conducted as they should be. -/
theorem attempts_continue (conductible : Conductible op) (left : Nat) :
    ∀ (before : Nat) (last : Option Error) (v : World ε ρ σ),
      before + (left + 1) = p.maxAttempts →
      v.record (.attempt label (before + 1)) = p.outset label op w before →
      p.Continues label op w before (p.attempts label w.now op (left + 1) last none v) := by
  induction left with
  | zero =>
      intro before last v split begins
      exact attempts_continue_succ conductible split begins nofun
  | succ left ih =>
      intro before last v split begins
      refine attempts_continue_succ conductible split begins ?_
      rintro _ ⟨⟩ last v begins
      exact ih (before + 1) last v (by omega) begins

/-- All attempts of a run are conducted as they should be. -/
theorem run_continues (pos : 0 < p.maxAttempts) (conductible : Conductible op) :
    p.Continues label op w 0 (p.run label op none w) := by
  obtain ⟨left, max_eq⟩ : ∃ left, p.maxAttempts = left + 1 := Nat.exists_eq_add_one.2 pos
  show p.Continues label op w 0 (p.attempts label w.now op p.maxAttempts none none w)
  rw [max_eq]
  exact attempts_continue conductible left 0 none w (by omega) rfl

theorem Continues.conducted (conductible : Conductible op) {out : Ending α × World ε ρ σ}
    (continues : p.Continues label op w 0 out) : ∃ before, p.Conducted label op w before out := by
  obtain ⟨final, -, counted, passed, last, concluded, limit, left⟩ := continues
  refine ⟨final, ?_⟩
  constructor
  case counted => exact counted
  case passed => exact fun n lt => passed n (Nat.zero_le n) lt
  case last => exact last
  case made => rw [left, conductible.plain, attempts_outset conductible]
  case atOnce => rfl
  case paused => exact fun n _ => now_outset_succ n
  case concluded => exact concluded
  case covered =>
    intro e failed passing
    cases concluded with
    | done | endless | overflow => cases failed
    | fatal _ _ final =>
        cases failed
        exact absurd passing (by simp [final])
    | exhausted =>
        cases failed
        cases passing
    | overdue limited late =>
        cases failed
        exact ⟨late, _, limited, rfl⟩

/-- A run of a policy is its attempts, each made after those before it have failed in time in ways
that may pass, and the last one decides. -/
theorem run_conducted (pos : 0 < p.maxAttempts) (conductible : Conductible op) :
    ∃ before, p.Conducted label op w before (p.run label op none w) :=
  (run_continues pos conductible).conducted conductible

/-! ### Attempts that follow a script -/

/-- An attempt that waits and then has a result, or never comes out. -/
def scripted (script : Nat → Option Duration × Except Error α) (number : Nat) : Run ε ρ σ α := do
  Run.wait (script number).1
  Run.ofExcept (script number).2

theorem conductible_scripted (script : Nat → Option Duration × Except Error α) :
    Conductible (scripted script : Nat → Run ε ρ σ α) := by
  constructor
  case timed => exact fun number => (Timed.wait _).bind fun _ => .ofExcept _
  case plain =>
    intro number limit w
    obtain ⟨t, e, _, waits⟩ := wait_cases (ρ := ρ) (σ := σ) (ε := ε) (script number).1 limit w.now
    have waited := waits w rfl
    unfold scripted
    rcases bind_cases (Run.wait (script number).1) (fun _ => Run.ofExcept (script number).2) limit w
      with ⟨x, w₁, run, goes⟩ | ⟨e', e'', w₁, run, stopped, -⟩
    · rw [goes]
      obtain rfl : w.advanceTo t = w₁ := congrArg Prod.snd (waited.symm.trans run)
      cases (script number).2 <;> rfl
    · rw [stopped]
      obtain rfl : w.advanceTo t = w₁ := congrArg Prod.snd (waited.symm.trans run)
      rfl

end

/-- An attempt that comes out when the time for everything is up does so in time. -/
theorem run_conducted_at_the_last_moment :
    let p : RetryPolicy := ⟨3, 10, some 90⟩
    let op : Nat → Run Unit Unit Unit Nat := scripted fun number =>
      if number = 1 then (some 40, .error (.of .relay "gone")) else (some 40, .ok 7)
    let w : World Unit Unit Unit := .start (fun _ => ()) () ()
    0 < p.maxAttempts ∧ Conductible op ∧
      (∃ before, p.Conducted "round" op w before (p.run "round" op none w)) ∧
      (p.run "round" op none w).1 = .done 7 ∧
      (p.run "round" op none w).2.trace.attempts = [(1, 0), (2, 50)] :=
  ⟨by decide, conductible_scripted _, run_conducted (by decide) (conductible_scripted _), rfl, rfl⟩

/-- No pause is longer than the longest one that anyone makes. -/
theorem run_waits_thirty_years_at_most :
    let op : Nat → Run Unit Unit Unit Unit := scripted fun _ => (some 0, .error (.of .timeout "boom"))
    let w : World Unit Unit Unit := .start (fun _ => ()) () ()
    let p : RetryPolicy := ⟨2, 946080000001, none⟩
    (p.run "round" op none w).2.trace.attempts = [(1, 0), (2, 946080000000)] ∧
      946080000000 ≠ 0 + p.backoff :=
  ⟨rfl, by decide⟩

end RetryPolicy

end QuorumVault
