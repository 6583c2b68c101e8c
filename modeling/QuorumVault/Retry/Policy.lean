/-
How often something is attempted.
-/
import QuorumVault.Clock.Duration

namespace QuorumVault

/-- How often something is attempted, with which pause in between, and how long in all. -/
structure RetryPolicy where
  maxAttempts : Nat
  /-- The pause after a failed attempt that another one follows. -/
  backoff : Duration
  overallDeadline : Option Duration
deriving DecidableEq, Repr

namespace RetryPolicy

/-- A policy without a limit of time; there is always one attempt. -/
def make (maxAttempts : Nat) (backoff : Duration) : RetryPolicy :=
  ⟨max maxAttempts 1, backoff, none⟩

/-- The same policy with a limit of time. -/
def withOverallDeadline (p : RetryPolicy) (deadline : Duration) : RetryPolicy :=
  { p with overallDeadline := some deadline }

/-- Three attempts with short pauses. -/
instance : Inhabited RetryPolicy :=
  ⟨make 3 50⟩

end RetryPolicy

end QuorumVault
