/-
What attempts log.

`Attempts` says how a number of attempts comes out, given what a single one may do.  It
has one case for each way in which an attempt can end: with a result, with a failure
for good, with one after which the next attempt follows or none is left, or cut off by
either limit of time.  A policy's run is one of them, so what is to be known about such
a run is an induction over its attempts.
-/
import QuorumVault.Proofs.Run.Log
import QuorumVault.Retry.Basic

namespace QuorumVault.RetryPolicy

open Run

variable {ε ρ σ α : Type}

/-- How the attempts that are left come out and what they log; `L` is what a single one may do. -/
inductive Attempts (p : RetryPolicy) (label : String) (L : Ending α → List Event → Prop) :
    Nat → Ending α → List Event → Prop
  | done {left number x log} (h : L (.done x) log) :
      Attempts p label L (left + 1) (.done x) (.attempt label number :: log)
  | fatal {left number e log} (h : L (.failed e) log) (final : e.retryable = false) :
      Attempts p label L (left + 1) (.failed e) (.attempt label number :: log)
  | exhausted {number e log} (h : L (.failed e) log) (passing : e.retryable = true) :
      Attempts p label L 1 (.failed (p.exhausted label (some e))) (.attempt label number :: log)
  | again {left number e log end' rest} (h : L (.failed e) log) (passing : e.retryable = true)
      (next : Attempts p label L left end' rest) :
      Attempts p label L (left + 1) end' (.attempt label number :: log ++ rest)
  | overdue {left number deadline log} (h : L .cut log) (limited : p.overallDeadline = some deadline) :
      Attempts p label L (left + 1) (.failed (overdue label deadline)) (.attempt label number :: log)
  | stopped {left number e end' log} (h : L e log) (stops : e.Stops end')
      (silent : ∀ x, e ≠ .failed x) :
      Attempts p label L (left + 1) end' (.attempt label number :: log)
  | pausing {left number e log} (h : L (.failed e) log) (passing : e.retryable = true) :
      Attempts p label L (left + 1) .cut (.attempt label number :: log)

namespace Attempts

variable {p : RetryPolicy} {label : String} {L : Ending α → List Event → Prop}

/-- Attempts that have failed, one after the other. -/
inductive Failures (label : String) (L : Ending α → List Event → Prop) : List Event → Prop
  | none : Failures label L []
  | again {number e log rest} (h : L (.failed e) log) (next : Failures label L rest) :
      Failures label L (.attempt label number :: log ++ rest)

/-- A result is that of the last attempt, and those before it have failed. -/
theorem eq_append_of_done {left : Nat} {x : α} {log : List Event}
    (h : Attempts p label L left (.done x) log) :
    ∃ before number last, log = before ++ .attempt label number :: last ∧
      Failures label L before ∧ L (.done x) last := by
  generalize he : Ending.done x = e at h
  induction h with
  | done h =>
      cases he
      exact ⟨[], _, _, rfl, .none, h⟩
  | fatal | exhausted | overdue | pausing => cases he
  | again h passing next ih =>
      obtain ⟨before, number, last, rfl, failures, hlast⟩ := ih he
      exact ⟨_, number, last, (List.append_assoc ..).symm, .again h failures, hlast⟩
  | stopped h stops =>
      subst he
      cases stops

/-- What holds of every attempt by itself, with its beginning, holds of all of them. -/
theorem keeps_each {K : Bool → List Event → Prop} (steady : Steady K)
    (each : ∀ number e log, L e log → K e.isEndless (.attempt label number :: log))
    {left : Nat} {e : Ending α} {log : List Event} (h : Attempts p label L left e log) :
    K e.isEndless log := by
  induction h with
  | done h | fatal h => exact each _ _ _ h
  | exhausted h | overdue h | pausing h => exact (each _ _ _ h :)
  | again h passing next ih => exact steady.append (each _ _ _ h) ih
  | stopped h stops =>
      rw [stops.isEndless_eq]
      exact each _ _ _ h

theorem keeps {K : Bool → List Event → Prop} (steady : Steady K)
    (begins : ∀ number, K false [.attempt label number])
    {left : Nat} {e : Ending α} {log : List Event}
    (h : Attempts p label (fun e log => K e.isEndless log) left e log) : K e.isEndless log :=
  h.keeps_each steady fun number _ _ each => steady.append (begins number) each

end Attempts

/-- The limit of what is done within a deadline. -/
def innerLimit (deadline limit : Option Time) : Option Time :=
  match deadline with
  | none => limit
  | some t => some (limit.elim t (min t))

/-- An attempt within a deadline comes out as it does by itself, except that being cut off by the
deadline is told apart. -/
theorem within_attempt_eq (deadline limit : Option Time) (m : Run ε ρ σ α) (w : World ε ρ σ) :
    within deadline (attempt m) limit w =
      match m (innerLimit deadline limit) w with
      | (.done x, w) => (.done (some (.ok x)), w)
      | (.failed e, w) => (.done (some (.error e)), w)
      | (.cut, w) => (if deadline.elim true (exceeds limit) then .cut else .done none, w)
      | (.endless, w) => (.endless, w)
      | (.overflow, w) => (.overflow, w) := by
  cases deadline with
  | none =>
      show andThen (attempt m) _ limit w = _
      unfold andThen attempt innerLimit
      dsimp only
      rcases m limit w with ⟨e, w₁⟩
      cases e <;> rfl
  | some t =>
      unfold within attempt innerLimit
      dsimp only
      rcases m (some (limit.elim t (min t))) w with ⟨e, w₁⟩
      cases e with
      | cut =>
          show (if exceeds limit t then (Ending.cut, w₁) else (Ending.done none, w₁))
            = (if exceeds limit t then .cut else .done none, w₁)
          split <;> rfl
      | done _ | failed _ | endless | overflow => rfl

/-- Until when the attempt that begins in a world may go on, if anything limits it. -/
def attemptDeadline (p : RetryPolicy) (started : Time) (w : World ε ρ σ) : Option Time :=
  p.overallDeadline.map fun d => w.now + (d - (w.now - started))

/-- What is done about the failure of an attempt. -/
def afterFailure (p : RetryPolicy) (label : String) (started : Time) (op : Nat → Run ε ρ σ α)
    (left : Nat) (e : Error) : Run ε ρ σ α :=
  if e.retryable then do
    if 0 < left then Run.wait (some p.backoff.pause)
    p.attempts label started op left (some e)
  else Run.fail e

/-- The next attempt decides how the attempts go on. -/
theorem attempts_succ (p : RetryPolicy) (label : String) (started : Time) (op : Nat → Run ε ρ σ α)
    (left : Nat) (last : Option Error) (limit : Option Time) (w : World ε ρ σ) :
    p.attempts label started op (left + 1) last limit w =
      let w₀ := w.record (.attempt label (p.maxAttempts - left))
      let deadline := p.attemptDeadline started w₀
      match op (p.maxAttempts - left) (innerLimit deadline limit) w₀ with
      | (.done x, w) => (.done x, w)
      | (.failed e, w) => p.afterFailure label started op left e limit w
      | (.cut, w) =>
        (if deadline.elim true (exceeds limit) then .cut
          else .failed (overdue label (p.overallDeadline.getD 0)), w)
      | (.endless, w) => (.endless, w)
      | (.overflow, w) => (.overflow, w) := by
  show andThen (within (p.attemptDeadline started _) _) _ limit (w.record _) = _
  unfold andThen
  rw [within_attempt_eq]
  dsimp only
  rcases op (p.maxAttempts - left) _ _ with ⟨e, w₁⟩
  cases e with
  | cut =>
      cases hx : (p.attemptDeadline started (w.record (.attempt label (p.maxAttempts - left)))).elim
        true (exceeds limit) <;> rfl
  | done _ | failed _ | endless | overflow => rfl

/-- What comes behind a failed attempt that may pass: nothing, or a pause and the next attempt. -/
theorem afterFailure_logs (p : RetryPolicy) (label : String) (started : Time)
    {op : Nat → Run ε ρ σ α} {L : Ending α → List Event → Prop} {left : Nat} (number : Nat) {e : Error}
    {log : List Event} (h : L (.failed e) log)
    (next : ∀ left', left = left' + 1 → ∀ last,
      (p.attempts label started op left last).Logs (Attempts p label L left)) :
    (p.afterFailure label started op left e).Logs fun end' rest =>
      Attempts p label L (left + 1) end' (.attempt label number :: log ++ rest) := by
  intro limit w
  unfold afterFailure
  by_cases passing : e.retryable = true
  · rw [if_pos passing]
    cases left with
    | zero => exact ⟨[], .refl w, by simpa using .exhausted h passing⟩
    | succ left =>
        rw [if_pos (Nat.succ_pos left)]
        rcases wait_some_cases p.backoff.pause limit w with hwait | ⟨_, -, -, hwait⟩
        · rw [bind_of_done hwait]
          obtain ⟨rest, since, hnext⟩ := next left rfl (some e) limit (w.advanceTo _)
          exact ⟨rest, since, .again h passing hnext⟩
        · rw [bind_of_stops hwait .cut]
          exact ⟨[], .refl w, by simpa using .pausing h passing⟩
  · rw [if_neg passing]
    refine ⟨[], .refl w, ?_⟩
    simpa using .fatal h (by simpa using passing)

/-- The next attempt and all behind it come out in one of the ways there are. -/
theorem attempts_succ_logs (p : RetryPolicy) (label : String) (started : Time)
    {op : Nat → Run ε ρ σ α} {L : Ending α → List Event → Prop} (h : ∀ n, (op n).Logs L)
    {left : Nat} (last : Option Error)
    (next : ∀ left', left = left' + 1 → ∀ last,
      (p.attempts label started op left last).Logs (Attempts p label L left)) :
    (p.attempts label started op (left + 1) last).Logs (Attempts p label L (left + 1)) := by
  intro limit w
  rw [attempts_succ]
  dsimp only
  have begun := w.since_record (.attempt label (p.maxAttempts - left))
  generalize w.record (.attempt label (p.maxAttempts - left)) = w₀ at begun ⊢
  obtain ⟨log, since, hL⟩ :=
    h (p.maxAttempts - left) (innerLimit (p.attemptDeadline started w₀) limit) w₀
  rcases hop : op (p.maxAttempts - left) _ w₀ with ⟨e, w₁⟩
  rw [hop] at since hL
  have since₁ := begun.trans since
  cases e with
  | done x => exact ⟨_, since₁, .done hL⟩
  | failed e =>
      obtain ⟨rest, since₂, hrest⟩ :=
        afterFailure_logs p label started (p.maxAttempts - left) hL next limit w₁
      exact ⟨_, since₁.trans since₂, hrest⟩
  | cut =>
      dsimp only
      by_cases outer : (p.attemptDeadline started w₀).elim true (exceeds limit) = true
      · rw [if_pos outer]
        exact ⟨_, since₁, .stopped hL .cut nofun⟩
      · rw [if_neg outer]
        cases limited : p.overallDeadline with
        | none => exact absurd (by simp [attemptDeadline, limited]) outer
        | some deadline => exact ⟨_, since₁, .overdue hL limited⟩
  | endless => exact ⟨_, since₁, .stopped hL .endless nofun⟩
  | overflow => exact ⟨_, since₁, .stopped hL .overflow nofun⟩

/-- As many attempts as are left come out in one of the ways there are. -/
theorem attempts_logs (p : RetryPolicy) (label : String) (started : Time) {op : Nat → Run ε ρ σ α}
    {L : Ending α → List Event → Prop} (h : ∀ n, (op n).Logs L) (left : Nat) :
    ∀ last, (p.attempts label started op (left + 1) last).Logs (Attempts p label L (left + 1)) := by
  induction left with
  | zero => exact fun last => attempts_succ_logs p label started h last nofun
  | succ left ih => exact fun last => attempts_succ_logs p label started h last fun _ _ => ih

theorem run_logs {p : RetryPolicy} (pos : 0 < p.maxAttempts) (label : String)
    {op : Nat → Run ε ρ σ α} {L : Ending α → List Event → Prop} (h : ∀ n, (op n).Logs L) :
    (p.run label op).Logs (Attempts p label L p.maxAttempts) := by
  intro limit w
  obtain ⟨left, hleft⟩ : ∃ left, p.maxAttempts = left + 1 := Nat.exists_eq_add_one.2 pos
  show ∃ log, w.Since (p.attempts label w.now op p.maxAttempts none limit w).2 log ∧
    Attempts p label L p.maxAttempts (p.attempts label w.now op p.maxAttempts none limit w).1 log
  rw [hleft]
  exact attempts_logs p label w.now h left none limit w

/-! ### The first attempt -/

/-- The attempts that are left begin with the next one. -/
theorem attempts_begin (p : RetryPolicy) (label : String) (started : Time)
    {op : Nat → Run ε ρ σ α} {L : Ending α → List Event → Prop} (h : ∀ n, (op n).Logs L) (left : Nat)
    (last : Option Error) :
    (p.attempts label started op (left + 1) last).Logs fun _ log =>
      ∃ rest, log = .attempt label (p.maxAttempts - left) :: rest := by
  intro limit w
  rw [attempts_succ]
  dsimp only
  have begun := w.since_record (.attempt label (p.maxAttempts - left))
  generalize w.record (.attempt label (p.maxAttempts - left)) = w₀ at begun ⊢
  obtain ⟨log, since, tried⟩ :=
    h (p.maxAttempts - left) (innerLimit (p.attemptDeadline started w₀) limit) w₀
  rcases hop : op (p.maxAttempts - left) _ w₀ with ⟨e, w₁⟩
  rw [hop] at since tried
  cases e with
  | failed e =>
      have next (left' : Nat) (split : left = left' + 1) (last : Option Error) :
          (p.attempts label started op left last).Logs (Attempts p label L left) := by
        rw [split]
        exact attempts_logs p label started h left' last
      obtain ⟨rest, since', -⟩ :=
        afterFailure_logs p label started (p.maxAttempts - left) tried next limit w₁
      exact ⟨_, (begun.trans since).trans since', _, rfl⟩
  | done | cut | endless | overflow => exact ⟨_, begun.trans since, _, rfl⟩

/-- A run of a policy begins with the first attempt. -/
theorem run_begins {p : RetryPolicy} (pos : 0 < p.maxAttempts) (label : String)
    {op : Nat → Run ε ρ σ α} {L : Ending α → List Event → Prop} (h : ∀ n, (op n).Logs L) :
    (p.run label op).Logs fun _ log => ∃ rest, log = .attempt label 1 :: rest := by
  intro limit w
  obtain ⟨left, hleft⟩ : ∃ left, p.maxAttempts = left + 1 := Nat.exists_eq_add_one.2 pos
  have first : p.maxAttempts - left = 1 := by omega
  have begins := attempts_begin p label w.now h left none limit w
  rw [first, ← hleft] at begins
  exact begins

end QuorumVault.RetryPolicy
