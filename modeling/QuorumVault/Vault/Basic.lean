/-
Vaults.

A vault is what creating a key leaves with each member: the public keys of both
curves, the chain code from which child keys derive, and the member's own share of
either key, as the engine handed it out.
-/
import QuorumVault.Json.Decoder
import QuorumVault.Signature

namespace QuorumVault

/-- The threshold library a vault's shares belong to. -/
inductive LibType where
  | gg20
  | dkls
deriving DecidableEq, Repr

namespace LibType

/-- How documents name it. -/
def label : LibType → String
  | gg20 => "Gg20"
  | dkls => "Dkls"

/-- The shape of a library type. -/
def decoder : Json.Decoder LibType :=
  .choice [("Gg20", .gg20), ("Dkls", .dkls)]

end LibType

/-- One member's share of a key. -/
structure KeyShare where
  publicKey : String
  keyshare : String
deriving DecidableEq, Repr

namespace KeyShare

/-- The shape of a share. -/
def decoder : Json.Decoder KeyShare :=
  open Json.Decoder in
  record "KeyShare"
    [field "public_key" string fun x k => { k with publicKey := x },
      field "keyshare" string fun x k => { k with keyshare := x }]
    ⟨"", ""⟩

def toJson (k : KeyShare) : Json :=
  .object [("public_key", .string k.publicKey), ("keyshare", .string k.keyshare)]

end KeyShare

/-- A vault. -/
structure Vault where
  name : String
  publicKeyEcdsa : String
  publicKeyEddsa : String
  hexChainCode : String
  signers : List String
  localPartyId : String
  keyShares : List KeyShare
  libType : LibType
  createdAt : Moment
  resharePrefix : Option String
deriving DecidableEq, Repr

namespace Vault

/-- A vault with nothing filled in. -/
def blank : Vault :=
  ⟨"", "", "", "", [], "", [], .dkls, default, none⟩

/-- The shape of a vault. -/
def decoder : Json.Decoder Vault :=
  open Json.Decoder in
  record "Vault"
    [field "name" string fun x v => { v with name := x },
      field "public_key_ecdsa" string fun x v => { v with publicKeyEcdsa := x },
      field "public_key_eddsa" string fun x v => { v with publicKeyEddsa := x },
      field "hex_chain_code" string fun x v => { v with hexChainCode := x },
      field "signers" (list string) fun x v => { v with signers := x },
      field "local_party_id" string fun x v => { v with localPartyId := x },
      field "key_shares" (list KeyShare.decoder) fun x v => { v with keyShares := x },
      field "lib_type" LibType.decoder fun x v => { v with libType := x },
      field "created_at" moment fun x v => { v with createdAt := x },
      optional "reshare_prefix" (option string) fun x v => { v with resharePrefix := x }]
    blank

def toJson (v : Vault) : Json :=
  .object [("name", .string v.name), ("public_key_ecdsa", .string v.publicKeyEcdsa),
    ("public_key_eddsa", .string v.publicKeyEddsa), ("hex_chain_code", .string v.hexChainCode),
    ("signers", .strings v.signers), ("local_party_id", .string v.localPartyId),
    ("key_shares", .array (v.keyShares.map KeyShare.toJson)),
    ("lib_type", .string v.libType.label), ("created_at", .string v.createdAt.text),
    ("reshare_prefix", v.resharePrefix.elim .null .string)]

/-- The public key on the curve of a family. -/
def publicKey (v : Vault) : Family → String
  | .ecdsa => v.publicKeyEcdsa
  | .eddsa => v.publicKeyEddsa

/-- The share of a public key, if the vault has one: the first that bears the key. -/
def share? (v : Vault) (publicKey : String) : Option String :=
  (v.keyShares.find? fun k => k.publicKey = publicKey).map (·.keyshare)

end Vault

end QuorumVault
