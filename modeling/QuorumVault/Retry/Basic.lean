/-
Attempting something until it works.

An attempt that fails in a way that may pass is followed by another one after a pause,
as long as there are attempts left; what fails for good fails at once.  The limit of
time for everything cuts off the attempt under way.  It is looked at around the
attempts only, so a pause may outlast it, and the attempt behind it is still given a
chance to succeed without waiting.
-/
import QuorumVault.Retry.Policy
import QuorumVault.Run.Basic

namespace QuorumVault.RetryPolicy

variable {ε ρ σ α : Type}

/-- The failure of running out of attempts. -/
def exhausted (p : RetryPolicy) (label : String) (last : Option Error) : Error :=
  .exhausted label p.maxAttempts (last.getD (.of .engine "no attempt was made"))

/-- The failure of running out of time. -/
def overdue (label : String) (deadline : Duration) : Error :=
  .of .timeout (label ++ " exceeded overall deadline of " ++ deadline.describe)

/-- The attempts that are left, after one that failed in the given way. -/
def attempts (p : RetryPolicy) (label : String) (started : Time) (op : Nat → Run ε ρ σ α) :
    Nat → Option Error → Run ε ρ σ α
  | 0, last => Run.fail (p.exhausted label last)
  | left + 1, _ => do
    let number := p.maxAttempts - left
    Run.record (.attempt label number)
    let start ← Run.now
    let deadline := p.overallDeadline.map fun d => start + (d - (start - started))
    match ← Run.within deadline (Run.attempt (op number)) with
    | none => Run.fail (overdue label (p.overallDeadline.getD 0))
    | some (.ok x) => return x
    | some (.error e) =>
      if e.retryable then do
        if 0 < left then Run.wait (some p.backoff.pause)
        attempts p label started op left (some e)
      else Run.fail e

/-- Attempts something as the policy says. -/
def run (p : RetryPolicy) (label : String) (op : Nat → Run ε ρ σ α) : Run ε ρ σ α := do
  attempts p label (← Run.now) op p.maxAttempts none

end QuorumVault.RetryPolicy
