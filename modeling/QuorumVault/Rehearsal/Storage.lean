/-
A storage that may refuse to store.
-/
import QuorumVault.Vault.Storage

namespace QuorumVault.Rehearsal

/-- A storage like another one, but every attempt to store something fails if a failure is given. -/
def refusing {σ : Type} (failure : Option Error) (storage : Storage σ) : Storage σ where
  ask s now c :=
    match c, failure with
    | .save _ _, some e => (some 0, .error e, s)
    | c, _ => storage.ask s now c

end QuorumVault.Rehearsal
