/-
Vault storages.

A storage keeps texts under names and does not look into them.
-/
import QuorumVault.Clock.Duration
import QuorumVault.Vault.SealedStore

namespace QuorumVault

/-- What a storage is asked. -/
inductive Storage.Call where
  | load (name : String)
  | save (name content : String)
deriving DecidableEq, Repr

/-- What a call answers if it does not fail. -/
abbrev Storage.Call.Answer : Storage.Call → Type
  | .load _ => Bytes
  | .save .. => Unit

/-- A storage whose inner state is of type `σ`. -/
structure Storage (σ : Type) where
  /-- What a call made at some time comes to: how long it takes, unless it never ends, and what is
  answered then. -/
  ask : σ → Time → (c : Storage.Call) → Option Duration × Except Error c.Answer × σ

/-- The storage in memory, which answers at once; its state counts the nonces it has drawn. -/
def SealedStore.storage (nonce : Nat → Sealing.Nonce) : Storage (SealedStore × Nat) where
  ask s _ := fun
    | .load name => (some 0, (s.1.get name).mapError Fault.error, s)
    | .save name content => (some 0, .ok (), (s.1.save (nonce s.2) name content, s.2 + 1))

end QuorumVault
