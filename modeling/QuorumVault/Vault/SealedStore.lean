/-
A vault storage in memory.

Contents are sealed once more under a key that lives no longer than the storage.
-/
import QuorumVault.Dictionary
import QuorumVault.Vault.Container

namespace QuorumVault

/-- A vault storage in memory. -/
structure SealedStore where
  key : Sealing.Key
  blobs : Dictionary Bytes

namespace SealedStore

/-- Why nothing can be read from the storage. -/
inductive Fault where
  | notFound (name : String)
  | broken
deriving DecidableEq, Repr

def Fault.error : Fault → Error
  | .notFound name => .of .storage ("vault " ++ name ++ " not found")
  | .broken => .of .storage "Unsealing failed: Error"

/-- A storage with nothing in it. -/
def empty (key : Sealing.Key) : SealedStore :=
  ⟨key, .empty⟩

/-- The names under which something is stored. -/
def names (s : SealedStore) : List String :=
  s.blobs.names

/-- Whether something is stored under a name. -/
def contains (s : SealedStore) (name : String) : Bool :=
  s.blobs.contains name

/-- Stores a content under a name. -/
def save (s : SealedStore) (nonce : Sealing.Nonce) (name content : String) : SealedStore :=
  { s with blobs := s.blobs.insert name (s.key.seal nonce (Utf8.encode content)) }

/-- The content under a name. -/
def get (s : SealedStore) (name : String) : Except Fault Bytes :=
  match s.blobs.get? name with
  | none => .error (.notFound name)
  | some blob => (s.key.unseal blob).mapError fun _ => .broken

/-- Reads and opens the vault under a name. -/
def load (s : SealedStore) (name password : String) : Except Error Vault := do
  let content ← (s.get name).mapError Fault.error
  (Container.openBytes content password).mapError Container.Fault.error

end SealedStore

end QuorumVault
