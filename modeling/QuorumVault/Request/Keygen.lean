/-
Requests to create a vault.
-/
import QuorumVault.Error
import QuorumVault.Json.Decoder
import QuorumVault.Text.Blank

namespace QuorumVault

/-- What is wrong with a request. -/
inductive RequestFault where
  | blank (field : String)
  | noMessages
  | duplicateHash (hash : String)
  | notHex (hash : String)
  | repeatedBody (hash : String)
deriving DecidableEq, Repr

def RequestFault.error : RequestFault → Error
  | .blank field => .of .validation (field ++ " is required")
  | .noMessages => .of .validation "no messages to sign"
  | .duplicateHash hash => .of .validation ("duplicate message hash " ++ hash)
  | .notHex hash => .of .validation ("message " ++ hash ++ " is not hex")
  | .repeatedBody hash => .of .validation ("message " ++ hash ++ " repeats an earlier message body")

/-- Demands that a field is filled in. -/
def RequestFault.require (field value : String) : Except RequestFault Unit :=
  if Text.Blank value then .error (.blank field) else .ok ()

/-- A request to create a vault. -/
structure KeygenRequest where
  name : String
  sessionId : String
  hexEncryptionKey : String
  localPartyId : String
  encryptionPassword : String
  email : Option String
  pluginId : String
deriving DecidableEq, Repr

namespace KeygenRequest

/-- A request with nothing filled in. -/
def blank : KeygenRequest :=
  ⟨"", "", "", "", "", none, ""⟩

/-- The shape of a request. -/
def decoder : Json.Decoder KeygenRequest :=
  open Json.Decoder in
  record "KeygenRequest"
    [field "name" string fun x r => { r with name := x },
      field "session_id" string fun x r => { r with sessionId := x },
      field "hex_encryption_key" string fun x r => { r with hexEncryptionKey := x },
      field "local_party_id" string fun x r => { r with localPartyId := x },
      field "encryption_password" string fun x r => { r with encryptionPassword := x },
      optional "email" (option string) fun x r => { r with email := x },
      optional "plugin_id" string fun x r => { r with pluginId := x }]
    blank

/-- Demands all that a vault cannot be created without. -/
def check (r : KeygenRequest) : Except RequestFault Unit := do
  RequestFault.require "name" r.name
  RequestFault.require "session_id" r.sessionId
  RequestFault.require "hex_encryption_key" r.hexEncryptionKey
  RequestFault.require "local_party_id" r.localPartyId
  RequestFault.require "encryption_password" r.encryptionPassword

end KeygenRequest

end QuorumVault
