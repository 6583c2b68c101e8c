/-
Sending envelopes.

A messenger puts sealed bodies into envelopes for one session and scope and counts
them.  An envelope that the relay refuses has used up its number all the same.
-/
import QuorumVault.Run.Basic

namespace QuorumVault

/-- Puts sealed bodies into envelopes, counting them. -/
structure Messenger where
  sessionId : String
  scope : Option String
  count : Nat
deriving DecidableEq, Repr

namespace Messenger

/-- The envelope for a body to a single recipient. -/
def envelope (m : Messenger) (sender recipient body : String) : Envelope where
  sessionId := m.sessionId
  sender := sender
  recipients := [recipient]
  body := body
  hash := Envelope.contentHash body
  sequenceNo := m.count

/-- One envelope more, whether or not it gets through. -/
def next (m : Messenger) : Messenger :=
  { m with count := m.count + 1 }

/-- Leaves an envelope on the relay; whether it was taken, and the messenger afterwards. -/
def send {ε ρ σ : Type} (site : Site ε ρ σ) (m : Messenger) (sender recipient body : String) :
    Run ε ρ σ (Except Error Unit × Messenger) := do
  let call := Relay.Call.upload (m.envelope sender recipient body) m.scope
  return (← Run.attempt (Run.askRelay site call), m.next)

end Messenger

end QuorumVault
