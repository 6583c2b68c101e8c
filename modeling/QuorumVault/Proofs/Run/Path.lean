/-
Moves one after the other.

A move takes a state to another one and logs events.  `Path` is any number of moves, with
everything they log.  Whatever holds at the start and is kept by each move holds at the
end; that induction is made here once.
-/
import QuorumVault.Proofs.Run.Log

namespace QuorumVault

/-- Any number of moves, and what they log. -/
inductive Path {S : Type} (Move : S → List Event → S → Prop) : S → List Event → S → Prop
  | refl (s) : Path Move s [] s
  | step {s s₁ s₂ log log'} (move : Move s log s₁) (rest : Path Move s₁ log' s₂) :
      Path Move s (log ++ log') s₂

namespace Path

variable {S : Type} {Move : S → List Event → S → Prop} {s s₁ s₂ : S} {log log' : List Event}

theorem single (move : Move s log s₁) : Path Move s log s₁ := by
  simpa using Path.step move (.refl s₁)

theorem trans (first : Path Move s log s₁) (second : Path Move s₁ log' s₂) :
    Path Move s (log ++ log') s₂ := by
  induction first with
  | refl => exact second
  | step move rest ih =>
      rw [List.append_assoc]
      exact .step move (ih second)

/-- A move that logs nothing, in front of others. -/
theorem silently (move : Move s [] s₁) (rest : Path Move s₁ log s₂) : Path Move s log s₂ :=
  .step move rest

/-- What holds of a state and of everything logged before is kept by moves that keep it. -/
theorem invariant {I : S → List Event → Prop}
    (kept : ∀ {s log s' log'}, I s log → Move s log' s' → I s' (log ++ log'))
    (path : Path Move s log s₁) {before : List Event} (h : I s before) : I s₁ (before ++ log) := by
  induction path generalizing before with
  | refl => simpa using h
  | step move rest ih =>
      rw [← List.append_assoc]
      exact ih (kept h move)

end Path

end QuorumVault
