/-
What an operation can fail with.

Engines, relays and storages report failures of their own, so an error carries free
text beside its kind; the parts of this program name their causes and turn them into
errors where they meet.  The kind decides whether another attempt may help.
-/
namespace QuorumVault

/-- Kinds of failure. -/
inductive Error.Kind where
  | timeout
  | relay
  | engine
  | validation
  | storage
  | crypto
  | serialization
deriving DecidableEq, Repr

/-- How messages begin. -/
def Error.Kind.title : Error.Kind → String
  | .timeout => "Timeout"
  | .relay => "Relay error"
  | .engine => "Engine error"
  | .validation => "Validation error"
  | .storage => "Storage error"
  | .crypto => "Cryptographic error"
  | .serialization => "Serialization error"

/-- Another attempt may help. -/
def Error.Kind.retryable : Error.Kind → Bool
  | .timeout | .relay | .engine | .crypto => true
  | .validation | .storage | .serialization => false

/-- A failure. -/
inductive Error where
  | of (kind : Error.Kind) (detail : String)
  | exhausted (label : String) (attempts : Nat) (last : Error)
deriving DecidableEq, Repr

namespace Error

def message : Error → String
  | of kind detail => kind.title ++ ": " ++ detail
  | exhausted label attempts last =>
    label ++ " failed after " ++ toString attempts ++ " attempts: " ++ last.message

/-- Another attempt may help. -/
def retryable : Error → Bool
  | of kind _ => kind.retryable
  | exhausted .. => false

/-- The failure of the last attempt at the bottom of it. -/
def root : Error → Error
  | of kind detail => of kind detail
  | exhausted _ _ last => last.root

end Error

/-- What did not fail stays as it is when failures are named anew. -/
theorem mapError_ok {ε ε' α : Type} (f : ε → ε') (x : α) :
    (Except.ok x : Except ε α).mapError f = .ok x := rfl

end QuorumVault
