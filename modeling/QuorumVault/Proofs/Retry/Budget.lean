/-
Attempts that have time enough.

The time for all attempts cuts none of them off if it is enough for as many attempts as
there are, of the longest kind, with the pauses between them.  The attempts then come
out, and end at the same moments, as they would without it.  The induction is on the
attempts that are left: what has passed and what they still need is no more than the
time for all of them.
-/
import QuorumVault.Proofs.Ceremony.Openings
import QuorumVault.Proofs.Run.EndsIn

namespace QuorumVault

/-- The labels of the attempts that begin, in order. -/
def begun (log : List Event) : List String :=
  log.filterMap Event.begun?

theorem begun_eq_nil {log : List Event} (h : ∀ e ∈ log, e.begun? = none) : begun log = [] :=
  List.filterMap_eq_nil_iff.2 h

namespace RetryPolicy

open Run

variable {ε ρ σ α : Type} {p : RetryPolicy} {label : String} {op : Nat → Run ε ρ σ α}
  {H : List Event → Prop} {Q : Except Error α → Prop} {d deadline : Duration} {started : Time}

/-- The same policy without a limit of time. -/
def unlimited (p : RetryPolicy) : RetryPolicy :=
  { p with overallDeadline := none }

/-- What so many attempts of some length take, with the pauses between them. -/
def span (p : RetryPolicy) (d : Duration) (left : Nat) : Duration :=
  left * d + (left - 1) * p.backoff

/-- The world in which the next attempt begins after a failed one. -/
def rested (p : RetryPolicy) (left : Nat) (w : World ε ρ σ) : World ε ρ σ :=
  if 0 < left then w.advanceTo (w.now + p.backoff.pause) else w

theorem since_rested (p : RetryPolicy) (left : Nat) (w : World ε ρ σ) :
    w.Since (p.rested left w) [] := by
  unfold rested
  split
  · exact (World.Since.refl w).advanceTo _
  · exact .refl w

/-- An attempt and the pause behind it leave the others what they need. -/
theorem now_rested_add_span (p : RetryPolicy) (left : Nat) {w w₁ : World ε ρ σ}
    (soon : w₁.now ≤ w.now + d) :
    (p.rested left w₁).now + p.span d left ≤ w.now + p.span d (left + 1) := by
  unfold rested span
  cases left with
  | zero =>
      rw [if_neg (Nat.lt_irrefl 0), Nat.zero_mul, Nat.zero_sub, Nat.zero_mul, Nat.one_mul]
      exact soon
  | succ left =>
      have pause : p.backoff.pause ≤ p.backoff := Nat.min_le_left _ _
      have now : (w₁.advanceTo (w₁.now + p.backoff.pause)).now ≤ w.now + d + p.backoff :=
        Nat.max_le.2 ⟨Nat.le_trans soon (Nat.le_add_right _ _), Nat.add_le_add soon pause⟩
      rw [if_pos (Nat.succ_pos left), Nat.add_sub_cancel, Nat.add_sub_cancel, Nat.succ_mul (left + 1) d,
        Nat.succ_mul left p.backoff]
      calc (w₁.advanceTo (w₁.now + p.backoff.pause)).now + ((left + 1) * d + left * p.backoff)
          ≤ w.now + d + p.backoff + ((left + 1) * d + left * p.backoff) := Nat.add_le_add_right now _
        _ = w.now + ((left + 1) * d + d + (left * p.backoff + p.backoff)) := by
          unfold Time Duration at *
          omega

/-- The time for all attempts leaves one what it may take. -/
theorem leaves_innerLimit (limited : p.overallDeadline = some deadline) (fits : d ≤ deadline)
    {w : World ε ρ σ} (enough : w.now + d ≤ started + deadline) :
    Leaves (innerLimit (p.attemptDeadline started w) none) w.now d := by
  unfold innerLimit attemptDeadline
  rw [limited]
  rintro last ⟨⟩
  show w.now + d ≤ w.now + (deadline - (w.now - started))
  unfold Time Duration at *
  omega

/-- How the attempts go on after one with a result or a failure. -/
def goOn (p : RetryPolicy) (label : String) (started : Time) (op : Nat → Run ε ρ σ α) (left : Nat)
    (w : World ε ρ σ) : Except Error α → Ending α × World ε ρ σ
  | .ok x => (.done x, w)
  | .error e => p.afterFailure label started op left e none w

theorem goOn_of_retryable {e : Error} (passing : e.retryable = true) (left : Nat)
    (w : World ε ρ σ) : p.goOn label started op left w (.error e) =
      p.attempts label started op left (some e) none (p.rested left w) := by
  show p.afterFailure label started op left e none w = _
  unfold afterFailure rested
  rw [if_pos passing]
  cases left <;> rfl

theorem goOn_of_final {result : Except Error α}
    (final : ¬∃ e : Error, result = .error e ∧ e.retryable = true) (left : Nat) (w : World ε ρ σ) :
    p.goOn label started op left w result = (.ofResult result, w) := by
  cases result with
  | ok x => rfl
  | error e =>
      show p.afterFailure label started op left e none w = _
      unfold afterFailure
      rw [if_neg fun passing => final ⟨e, rfl, passing⟩]
      rfl

theorem attempts_of_result {left : Nat} {last : Option Error} {w w₀ w₁ : World ε ρ σ}
    {result : Except Error α}
    (begins : w₀ = w.record (.attempt label (p.maxAttempts - left)))
    (run : op (p.maxAttempts - left) (innerLimit (p.attemptDeadline started w₀) none) w₀ =
      (.ofResult result, w₁)) :
    p.attempts label started op (left + 1) last none w = p.goOn label started op left w₁ result := by
  subst begins
  rw [attempts_succ]
  dsimp only
  rw [run]
  cases result <;> rfl

theorem unlimited_of_final {left : Nat} {last : Option Error} {w w₁ : World ε ρ σ} {e : Ending α}
    (run : op (p.maxAttempts - left) none (w.record (.attempt label (p.maxAttempts - left))) = (e, w₁))
    (final : ¬∃ f : Error, e = .failed f ∧ f.retryable = true) :
    p.unlimited.attempts label started op (left + 1) last none w = (e, w₁) := by
  have alone : op (p.unlimited.maxAttempts - left)
      (innerLimit (p.unlimited.attemptDeadline started
        (w.record (.attempt label (p.unlimited.maxAttempts - left)))) none)
      (w.record (.attempt label (p.unlimited.maxAttempts - left))) = (e, w₁) := run
  rw [attempts_succ]
  dsimp only
  rw [alone]
  cases e with
  | done | cut | endless | overflow => rfl
  | failed f =>
      show p.unlimited.afterFailure label started op left f none w₁ = _
      unfold afterFailure
      rw [if_neg fun passing => final ⟨f, rfl, passing⟩]
      rfl

/-- How attempts come out that have time enough. -/
structure Outlasts (p : RetryPolicy) (label : String) (started : Time) (op : Nat → Run ε ρ σ α)
    (Q : Except Error α → Prop) (left : Nat) (last : Option Error) (w : World ε ρ σ)
    (log : List Event) : Prop where
  same : p.attempts label started op left last none w =
    p.unlimited.attempts label started op left last none w
  ends : ∃ result, (p.unlimited.attempts label started op left last none w).1 = .ofResult result
  intime : ∀ d, (p.unlimited.attempts label started op left last none w).1 ≠ .failed (overdue label d)
  /-- If every attempt fails in the same way that may pass, all of them are made. -/
  exhausts : ∀ e : Error, e.retryable = true → (∀ result, Q result → result = .error e) →
    (left = 0 → last = some e) →
    (p.unlimited.attempts label started op left last none w).1 =
        .failed (p.exhausted label (some e)) ∧
      begun log = List.replicate left label

section

variable {left : Nat} {last : Option Error} {w w₁ : World ε ρ σ} {log log₁ : List Event}

theorem Outlasts.again {f : Error} {number : Nat}
    (rest : p.Outlasts label started op Q left (some f) (p.rested left w₁) log) (known : Q (.error f))
    (quiet : ∀ e ∈ log₁, e.begun? = none)
    (goes : p.attempts label started op (left + 1) last none w =
      p.attempts label started op left (some f) none (p.rested left w₁))
    (unlimited : p.unlimited.attempts label started op (left + 1) last none w =
      p.unlimited.attempts label started op left (some f) none (p.rested left w₁)) :
    p.Outlasts label started op Q (left + 1) last w ([.attempt label number] ++ log₁ ++ log) := by
  constructor
  case same => rw [goes, unlimited, rest.same]
  case ends => exact unlimited ▸ rest.ends
  case intime => exact unlimited ▸ rest.intime
  case exhausts =>
    intro e passing only _
    obtain rfl : f = e := Except.error.inj (only _ known)
    obtain ⟨exhausted, count⟩ := rest.exhausts f passing only fun _ => rfl
    refine ⟨unlimited ▸ exhausted, ?_⟩
    have none : begun log₁ = [] := begun_eq_nil quiet
    unfold begun at *
    rw [List.filterMap_append, List.filterMap_append, none, count]
    rfl

theorem Outlasts.final {result : Except Error α} (known : Q result)
    (final : ¬∃ f : Error, result = .error f ∧ f.retryable = true)
    (goes : p.attempts label started op (left + 1) last none w = (.ofResult result, w₁))
    (unlimited : p.unlimited.attempts label started op (left + 1) last none w =
      (.ofResult result, w₁)) :
    p.Outlasts label started op Q (left + 1) last w log := by
  constructor
  case same => rw [goes, unlimited]
  case ends => exact ⟨result, by rw [unlimited]⟩
  case intime =>
    intro d late
    rw [unlimited] at late
    cases result <;> cases late
    exact final ⟨_, rfl, rfl⟩
  case exhausts => exact fun e passing only _ => absurd ⟨e, only _ known, passing⟩ final

end

theorem attempts_outlast (hereditary : Hereditary H) (h : ∀ n, (op n).EndsIn H d Q)
    (unbegun : ∀ n, (op n).Keeps fun _ log => ∀ e ∈ log, e.begun? = none)
    (limited : p.overallDeadline = some deadline) (fits : d ≤ deadline) (left : Nat) (last : Option Error) (w : World ε ρ σ) :
    ∃ log, w.Since (p.unlimited.attempts label started op left last none w).2 log ∧
      (H log → w.now + p.span d left ≤ started + deadline →
        p.Outlasts label started op Q left last w log) := by
  induction left generalizing last w with
  | zero =>
      refine ⟨[], .refl w, fun _ _ => ⟨rfl, ⟨.error _, rfl⟩, nofun, fun e _ _ known => ?_⟩⟩
      rw [known rfl]
      exact ⟨rfl, rfl⟩
  | succ left ih =>
      let number := p.maxAttempts - left
      let w₀ := w.record (.attempt label number)
      have begins : w.Since w₀ [.attempt label number] := w.since_record _
      obtain ⟨log₁, since₁, ends⟩ := h number w₀
      obtain ⟨log₁', since₁', quiet⟩ := unbegun number none w₀
      obtain rfl := since₁.unique since₁'
      rcases run : op number none w₀ with ⟨e, w₁⟩
      rw [run] at since₁
      -- the attempt comes out as it does by itself, and so far nothing is different
      have comes (kind : H log₁) (enough : w.now + p.span d (left + 1) ≤ started + deadline) :
          ∃ result, Q result ∧ e = .ofResult result ∧ w₁.now ≤ w.now + d ∧
            p.attempts label started op (left + 1) last none w =
              p.goOn label started op left w₁ result := by
        obtain ⟨result, w₂, known, soon, same⟩ := ends kind
        obtain ⟨rfl, rfl⟩ := Prod.ext_iff.1 ((same none nofun).symm.trans run)
        have first : w₀.now + d ≤ started + deadline := by
          refine Nat.le_trans (Nat.add_le_add_left ?_ _) enough
          unfold span
          rw [Nat.succ_mul]
          exact Nat.le_trans (Nat.le_add_left d _) (Nat.le_add_right _ _)
        have within := same _ (leaves_innerLimit limited fits first)
        exact ⟨result, known, rfl, soon, attempts_of_result rfl within⟩
      by_cases goesOn : ∃ f, e = .failed f ∧ f.retryable = true
      · obtain ⟨f, rfl, passing⟩ := goesOn
        obtain ⟨log₂, since₂, outlasts⟩ := ih (some f) (p.rested left w₁)
        have failed : op number (innerLimit (p.unlimited.attemptDeadline started w₀) none) w₀ =
            (.ofResult (.error f), w₁) := run
        have unlimited : p.unlimited.attempts label started op (left + 1) last none w =
            p.unlimited.attempts label started op left (some f) none (p.rested left w₁) :=
          (attempts_of_result rfl failed).trans (goOn_of_retryable passing left w₁)
        have since := (begins.trans since₁).trans ((p.since_rested left w₁).trans since₂)
        rw [List.nil_append, ← unlimited] at since
        refine ⟨_, since, fun kind enough => ?_⟩
        obtain ⟨kind₁, kind₂⟩ := hereditary _ _ kind
        obtain ⟨result, known, failed_eq, soon, goes⟩ := comes (hereditary _ _ kind₁).2 enough
        obtain rfl : result = .error f := by cases result <;> cases failed_eq; rfl
        have rest := outlasts kind₂ (Nat.le_trans (now_rested_add_span p left soon) enough)
        exact rest.again known quiet (goes.trans (goOn_of_retryable passing left w₁)) unlimited
      · -- there is no other attempt
        have unlimited : p.unlimited.attempts label started op (left + 1) last none w = (e, w₁) :=
          unlimited_of_final run goesOn
        have since : w.Since (p.unlimited.attempts label started op (left + 1) last none w).2
            ([.attempt label number] ++ log₁) := by
          rw [unlimited]
          exact begins.trans since₁
        refine ⟨_, since, fun kind enough => ?_⟩
        obtain ⟨result, known, rfl, -, goes⟩ := comes (hereditary _ _ kind).2 enough
        have final : ¬∃ f : Error, result = .error f ∧ f.retryable = true := by
          rintro ⟨f, rfl, passing⟩
          exact goesOn ⟨f, rfl, passing⟩
        exact .final known final (goes.trans (goOn_of_final final left w₁)) unlimited

/-- A policy's attempts have time enough if its limit of time is what they take at most. -/
theorem run_outlasts (hereditary : Hereditary H) (h : ∀ n, (op n).EndsIn H d Q)
    (unbegun : ∀ n, (op n).Keeps fun _ log => ∀ e ∈ log, e.begun? = none)
    (limited : p.overallDeadline = some deadline) (pos : 0 < p.maxAttempts) (fits : p.span d p.maxAttempts ≤ deadline) {w : World ε ρ σ}
    {log : List Event} (since : w.Since (p.unlimited.run label op none w).2 log) (kind : H log) :
    p.Outlasts label w.now op Q p.maxAttempts none w log := by
  have one : d ≤ deadline := by
    refine Nat.le_trans ?_ fits
    calc d = 1 * d := (Nat.one_mul d).symm
      _ ≤ p.maxAttempts * d := Nat.mul_le_mul_right d pos
      _ ≤ p.span d p.maxAttempts := Nat.le_add_right _ _
  have outlast : ∃ log', w.Since (p.unlimited.run label op none w).2 log' ∧
      (H log' → w.now + p.span d p.maxAttempts ≤ w.now + deadline →
        p.Outlasts label w.now op Q p.maxAttempts none w log') :=
    attempts_outlast hereditary h unbegun limited one p.maxAttempts none w
  obtain ⟨log', since', outlasts⟩ := outlast
  obtain rfl : log = log' := since.unique since'
  exact outlasts kind (Nat.add_le_add_left fits _)

end RetryPolicy

end QuorumVault
