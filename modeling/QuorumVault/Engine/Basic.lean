/-
Threshold engines.

The mathematics of the protocols is the work of an engine, one for either curve.  It
hands out sessions by number; in a session it has messages for the other members,
takes theirs, and in the end gives a key share or a signature.  Any call may fail.
What an engine does is its own affair, so nothing is assumed here but that questions
about a share do not change it.
-/
import QuorumVault.Error
import QuorumVault.Text.Utf8

namespace QuorumVault

/-- The number by which an engine knows a session. -/
abbrev Engine.Handle := Nat

/-- What an engine is called for in a session. -/
inductive Engine.Call where
  | openKeygen (setup : Bytes) (party : String)
  | openSign (setup : Bytes) (party : String) (share : Bytes)
  | output (handle : Engine.Handle)
  | receiver (handle : Engine.Handle) (message : Bytes) (index : Nat)
  | input (handle : Engine.Handle) (message : Bytes)
  | finish (handle : Engine.Handle)
  | free (handle : Engine.Handle)
deriving DecidableEq, Repr

namespace Engine

/-- What a call answers if it does not fail. -/
abbrev Call.Answer : Call → Type
  | .openKeygen .. => Handle
  | .openSign .. => Handle
  | .output _ => Option Bytes
  | .receiver .. => Option String
  | .input .. => Bool
  | .finish _ => Bytes
  | .free _ => Unit

/-- The session that a call uses; none if it opens one. -/
def Call.handle? : Call → Option Handle
  | .openKeygen .. => none
  | .openSign .. => none
  | .output h => some h
  | .receiver h _ _ => some h
  | .input h _ => some h
  | .finish h => some h
  | .free h => some h

/-- A question about a key share. -/
inductive Query where
  | publicKey (share : Bytes)
  | chainCode (share : Bytes)
  | childKey (share : Bytes) (path : String)
deriving DecidableEq, Repr

end Engine

/-- An engine whose inner state is of type `ε`. -/
structure Engine (ε : Type) where
  call : ε → (c : Engine.Call) → Except Error c.Answer × ε
  query : ε → Engine.Query → Except Error Bytes

end QuorumVault
