/-
How a round stands.

Sender and receiver of a round tell each other through one signal how it stands.  Once
it says that the round is over, it says so for good.
-/
namespace QuorumVault

/-- How a round stands. -/
inductive RoundState where
  | created
  | awaitingMessages
  | finished
  | timedOut
  | failed
deriving DecidableEq, Repr

namespace RoundState

/-- The round is over. -/
def isTerminal : RoundState → Bool
  | finished | timedOut | failed => true
  | created | awaitingMessages => false

/-- Moves on, unless the round is over. -/
def set (current next : RoundState) : RoundState :=
  if current.isTerminal then current else next

/-- A round is over once it was over or is said to be. -/
@[simp] theorem isTerminal_set (current next : RoundState) :
    (current.set next).isTerminal = (current.isTerminal || next.isTerminal) := by
  cases h : current.isTerminal <;> simp [set, h]

end RoundState

end QuorumVault
