/-
Where the local member's shares are kept.

While a vault is being made its shares live in memory under their public keys.  The
shares of a stored vault can be looked up but not changed.
-/
import QuorumVault.Dictionary
import QuorumVault.Error
import QuorumVault.Vault.Basic

namespace QuorumVault

/-- Why a share cannot be read or written. -/
inductive ShareFault where
  | absent (publicKey : String)
  | notInVault (vault publicKey : String)
  | readOnly
deriving DecidableEq, Repr

def ShareFault.error : ShareFault → Error
  | .absent key => .of .storage ("no key share for " ++ key)
  | .notInVault vault key => .of .storage ("vault " ++ vault ++ " has no key share for " ++ key)
  | .readOnly => .of .storage "loaded vaults are read-only"

/-- Shares in memory, under their public keys. -/
abbrev MemoryShares := Dictionary String

/-- Looks a share up in memory. -/
def MemoryShares.find (shares : MemoryShares) (publicKey : String) : Except ShareFault String :=
  match shares.get? publicKey with
  | some share => .ok share
  | none => .error (.absent publicKey)

/-- Looks a share up in a stored vault. -/
def Vault.findShare (v : Vault) (publicKey : String) : Except ShareFault String :=
  match v.share? publicKey with
  | some share => .ok share
  | none => .error (.notInVault v.name publicKey)

/-- Where shares are kept. -/
inductive ShareStore where
  | memory (shares : MemoryShares)
  | vault (v : Vault)

namespace ShareStore

def find (store : ShareStore) (publicKey : String) : Except ShareFault String :=
  match store with
  | .memory shares => shares.find publicKey
  | .vault v => v.findShare publicKey

/-- Keeps a share under its public key. -/
def save (store : ShareStore) (publicKey share : String) : Except ShareFault ShareStore :=
  match store with
  | .memory shares => .ok (.memory (shares.insert publicKey share))
  | .vault _ => .error .readOnly

end ShareStore

end QuorumVault
