/-
The form in which vaults are stored.

The JSON of a vault is sealed with its password and put into a container, which says
in which version of the form it is written and whether it is sealed at all.  What a
storage gets to see is the JSON of the container in base64.
-/
import QuorumVault.Cipher.Sealing
import QuorumVault.Vault.Basic

namespace QuorumVault

/-- A vault in the form in which it is stored. -/
structure Container where
  version : Nat
  vault : String
  isEncrypted : Bool
deriving DecidableEq, Repr

namespace Container

/-- The version of the form that is written and read. -/
def currentVersion : Nat := 1

/-- The shape of a container. -/
def decoder : Json.Decoder Container :=
  open Json.Decoder in
  record "VaultContainer"
    [field "version" (natural 32) fun x c => { c with version := x },
      field "vault" string fun x c => { c with vault := x },
      field "is_encrypted" bool fun x c => { c with isEncrypted := x }]
    ⟨0, "", false⟩

def toJson (c : Container) : Json :=
  .object
    [("version", .nat c.version), ("vault", .string c.vault), ("is_encrypted", .bool c.isEncrypted)]

/-- Why a stored vault cannot be read. -/
inductive Fault where
  | notText (fault : Utf8.Fault)
  | encoding (fault : Base64.Fault)
  | document (fault : Json.Fault)
  | version (version : Nat)
  | sealed (fault : Sealing.Fault)
deriving DecidableEq, Repr

def Fault.error : Fault → Error
  | .notText fault => .of .serialization ("vault content is not utf-8: " ++ fault.message)
  | .encoding fault => .of .serialization ("base64: " ++ fault.message)
  | .document fault => .of .serialization fault.message
  | .version n => .of .serialization ("unsupported vault container version " ++ toString n)
  | .sealed fault => fault.error

def ofVault (v : Vault) (password : String) (nonce : Sealing.Nonce) : Container where
  version := currentVersion
  vault := Base64.encode ((Sealing.Key.ofPassword password).seal nonce v.toJson.bytes)
  isEncrypted := true

/-- The bytes of the vault's JSON. -/
def plaintext (c : Container) (password : String) : Except Fault Bytes := do
  let data ← (Base64.decode c.vault).mapError .encoding
  if c.isEncrypted then ((Sealing.Key.ofPassword password).unseal data).mapError .sealed
  else return data

def toVault (c : Container) (password : String) : Except Fault Vault :=
  if c.version ≠ currentVersion then .error (.version c.version)
  else do
    let bytes ← c.plaintext password
    (Vault.decoder.parse bytes).mapError .document

/-- The text that a storage gets to see. -/
def text (c : Container) : String :=
  Base64.encode c.toJson.bytes

/-- Reads what a storage returns. -/
def ofBytes (content : Bytes) : Except Fault Container := do
  let text ← (Utf8.decode content).mapError .notText
  let raw ← (Base64.decode (Text.trim text)).mapError .encoding
  (decoder.parse raw).mapError .document

/-- Reads and opens what a storage returns. -/
def openBytes (content : Bytes) (password : String) : Except Fault Vault := do
  (← ofBytes content).toVault password

end Container

end QuorumVault
