/-
Relays.

The members of a session meet on a relay, which keeps their messages until they are
fetched.  It is not trusted: it may answer anything, late or never.

Rounds that share a session are kept apart by a scope.
-/
import QuorumVault.Clock.Duration
import QuorumVault.Error
import QuorumVault.Relay.Envelope

namespace QuorumVault

/-- What a relay is asked. -/
inductive Relay.Call where
  | register (session party : String)
  | start (session : String) (wait : Duration)
  | setup (session : String) (scope : Option String) (wait : Duration)
  | upload (message : Envelope) (scope : Option String)
  | download (session party : String) (scope : Option String)
  | delete (session party hash : String) (scope : Option String)
  | complete (session party : String)
  | completed (session : String) (parties : List String)
deriving DecidableEq, Repr

/-- What a call answers if it does not fail. -/
abbrev Relay.Call.Answer : Relay.Call → Type
  | .register .. => Unit
  | .start .. => List String
  | .setup .. => String
  | .upload .. => Unit
  | .download .. => List Envelope
  | .delete .. => Unit
  | .complete .. => Unit
  | .completed .. => Bool

/-- A relay whose inner state is of type `ρ`. -/
structure Relay (ρ : Type) where
  /-- What a call made at some time comes to: how long it takes, unless it never ends, and what is
  answered then. -/
  ask : ρ → Time → (c : Relay.Call) → Option Duration × Except Error c.Answer × ρ

end QuorumVault
