/-
Runs that are done in time.

`Run.DoneIn` says that a run, wherever it starts, is done with a result after a given
time at most, if its limit leaves it that much.  What is done one after the other needs
the times of both.  Attempts need the time of one that succeeds.
-/
import QuorumVault.Proofs.Retry.Attempts

namespace QuorumVault.Run

variable {ε ρ σ α β : Type} {site : Site ε ρ σ} {m : Run ε ρ σ α} {f : α → Run ε ρ σ β}
  {d d' : Duration} {x : α} {y : β}

/-- There is some time left. -/
def Leaves (limit : Option Time) (now : Time) (d : Duration) : Prop :=
  ∀ last, limit = some last → now + d ≤ last

/-- The run is done with a result after some time at most, if there is that much left. -/
def DoneIn (m : Run ε ρ σ α) (d : Duration) (x : α) : Prop :=
  ∀ limit w, Leaves limit w.now d → ∃ w', m limit w = (.done x, w') ∧ w'.now ≤ w.now + d

namespace Leaves

variable {limit : Option Time} {now t : Time}

theorem not_exceeds (left : Leaves limit now d) (soon : t ≤ now + d) : exceeds limit t = false := by
  cases limit with
  | none => rfl
  | some last =>
      have bound : t ≤ last := Nat.le_trans soon (left last rfl)
      exact decide_eq_false (Nat.not_lt.2 bound)

theorem mono (left : Leaves limit now d') (le : d ≤ d') : Leaves limit now d :=
  fun last h => Nat.le_trans (Nat.add_le_add_left le now) (left last h)

theorem rest (left : Leaves limit now (d + d')) (soon : t ≤ now + d) : Leaves limit t d' := by
  intro last h
  calc t + d' ≤ now + d + d' := Nat.add_le_add_right soon d'
    _ = now + (d + d') := Nat.add_assoc ..
    _ ≤ last := left last h

end Leaves

namespace DoneIn

theorem done (x : α) : (pure x : Run ε ρ σ α).DoneIn 0 x :=
  fun _ w _ => ⟨w, rfl, Nat.le_refl _⟩

theorem bind (first : m.DoneIn d x) (next : (f x).DoneIn d' y) : (m >>= f).DoneIn (d + d') y := by
  intro limit w left
  obtain ⟨w₁, done, soon⟩ := first limit w (left.mono (Nat.le_add_right d d'))
  obtain ⟨w₂, done', soon'⟩ := next limit w₁ (left.rest soon)
  refine ⟨w₂, (bind_of_done done).trans done', ?_⟩
  calc w₂.now ≤ w₁.now + d' := soon'
    _ ≤ w.now + d + d' := Nat.add_le_add_right soon d'
    _ = w.now + (d + d') := Nat.add_assoc ..

/-- What takes no time may come first. -/
theorem after (first : m.DoneIn 0 x) (next : (f x).DoneIn d y) : (m >>= f).DoneIn d y := by
  have both := first.bind next
  rwa [Nat.zero_add] at both

/-- What takes no time may come last. -/
theorem before (first : m.DoneIn d x) (next : (f x).DoneIn 0 y) : (m >>= f).DoneIn d y :=
  first.bind next

theorem ofExcept (x : α) : (Run.ofExcept (.ok x) : Run ε ρ σ α).DoneIn 0 x :=
  fun _ w _ => ⟨w, rfl, Nat.le_refl _⟩

theorem record (e : Event) : (Run.record e : Run ε ρ σ Unit).DoneIn 0 () :=
  fun _ w _ => ⟨w.record e, rfl, Nat.le_refl _⟩

theorem wait (d : Duration) : (Run.wait (some d) : Run ε ρ σ Unit).DoneIn d () := by
  intro limit w left
  refine ⟨w.advanceTo (w.now + d), if_neg ?_, Nat.max_le.2 ⟨Nat.le_add_right _ _, Nat.le_refl _⟩⟩
  rw [left.not_exceeds (Nat.le_refl _)]
  exact Bool.false_ne_true

theorem attempt (h : m.DoneIn d x) : (Run.attempt m).DoneIn d (.ok x) := by
  intro limit w left
  obtain ⟨w₁, done, soon⟩ := h limit w left
  refine ⟨w₁, ?_, soon⟩
  unfold Run.attempt
  rw [done]

/-- Attempts are done when the first one is, if the time for all of them leaves it enough. -/
theorem attempts {p : RetryPolicy} {label : String} {op : Nat → Run ε ρ σ α}
    (pos : 0 < p.maxAttempts) (h : (op 1).DoneIn d x)
    (enough : ∀ deadline, p.overallDeadline = some deadline → d ≤ deadline) :
    (p.run label op).DoneIn d x := by
  intro limit w left
  obtain ⟨others, max_eq⟩ : ∃ others, p.maxAttempts = others + 1 := Nat.exists_eq_add_one.2 pos
  have run_eq : p.run label op limit w = p.attempts label w.now op p.maxAttempts none limit w := rfl
  have number : p.maxAttempts - others = 1 := by omega
  rw [run_eq, max_eq, RetryPolicy.attempts_succ, number]
  dsimp only
  let w₀ := w.record (.attempt label 1)
  have inner : Leaves (RetryPolicy.innerLimit (p.attemptDeadline w.now w₀) limit) w₀.now d := by
    unfold RetryPolicy.innerLimit RetryPolicy.attemptDeadline
    cases overall : p.overallDeadline with
    | none => exact left
    | some deadline =>
        have bound : w₀.now + d ≤ w₀.now + (deadline - (w₀.now - w.now)) := by
          rw [show w₀.now - w.now = 0 from Nat.sub_self w.now]
          exact Nat.add_le_add_left (enough deadline overall) _
        intro last h
        cases limit with
        | none => exact Option.some.inj h ▸ bound
        | some outer => exact Option.some.inj h ▸ Nat.le_min.2 ⟨bound, left outer rfl⟩
  obtain ⟨w₁, done, soon⟩ := h _ w₀ inner
  rw [done]
  exact ⟨w₁, rfl, soon⟩

/-! ### Answers that come at once -/

theorem at_once (answered : Except Error α → Event) (x : α) :
    (do Run.wait (some 0); Run.record (answered (.ok x)); Run.ofExcept (.ok x) :
      Run ε ρ σ α).DoneIn 0 x :=
  after (x := ()) (wait 0) (after (x := ()) (record _) (ofExcept x))

theorem askRelay {c : Relay.Call} {answer : c.Answer}
    (h : ∀ s now, ∃ s', site.relay.ask s now c = (some 0, .ok answer, s')) :
    (Run.askRelay site c).DoneIn 0 answer := by
  intro limit w left
  obtain ⟨s', asked⟩ := h w.relay w.now
  unfold Run.askRelay World.askRelay
  rw [asked]
  exact at_once (.answered c) answer limit ({ w with relay := s' }.record (.asked c)) left

theorem askStorage {c : Storage.Call} {answer : c.Answer}
    (h : ∀ s now, ∃ s', site.storage.ask s now c = (some 0, .ok answer, s')) :
    (Run.askStorage site c).DoneIn 0 answer := by
  intro limit w left
  obtain ⟨s', asked⟩ := h w.storage w.now
  unfold Run.askStorage World.askStorage
  rw [asked]
  exact at_once (.stored c) answer limit ({ w with storage := s' }.record (.storing c)) left

theorem callEngine {family : Family} {c : Engine.Call} {answer : c.Answer}
    (h : ∀ s, ∃ s', (site.engine family).call s c = (.ok answer, s')) :
    (Run.callEngine site family c).DoneIn 0 answer := by
  intro limit w _
  obtain ⟨s', called⟩ := h (w.engines family)
  unfold Run.callEngine World.callEngine
  rw [called]
  exact ⟨_, rfl, Nat.le_refl _⟩

theorem queryEngine {family : Family} {q : Engine.Query} {answer : Bytes}
    (h : ∀ s, (site.engine family).query s q = .ok answer) :
    (Run.queryEngine site family q).DoneIn 0 answer := by
  intro limit w _
  unfold Run.queryEngine World.queryEngine
  rw [h]
  exact ⟨_, rfl, Nat.le_refl _⟩

theorem withSession {family : Family} {opening : Session.Opening} {s : Session}
    {work : Session → Run ε ρ σ α} (opens : (Session.start site family opening).DoneIn 0 s)
    (h : (work s).DoneIn d x) : (Session.withSession site family opening work).DoneIn d x := by
  refine opens.after fun limit w left => ?_
  obtain ⟨w₁, done, soon⟩ := h limit w left
  refine ⟨s.free site w₁, ?_, ?_⟩
  · unfold Session.use
    rw [done]
  · rw [show (s.free site w₁).now = w₁.now from World.now_callEngine rfl]
    exact soon

end DoneIn

end QuorumVault.Run
