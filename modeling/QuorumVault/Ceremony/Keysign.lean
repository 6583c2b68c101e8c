/-
Signing messages.

The vault of the requested key is opened, the members meet, and every message is
signed in a round of its own, one after the other.  The scope of a round is the hash
of the bytes to sign, so the members agree on what they sign.  One message that cannot
be signed ends it all.

Every signature is checked against the key, which for ECDSA may be a child of the
vault's key.  A signature that does not pass is recorded and returned all the same.
-/
import QuorumVault.Ceremony.Committee
import QuorumVault.Request.Keysign
import QuorumVault.Retry.Basic
import QuorumVault.Round.Pumping
import QuorumVault.Vault.BackupName
import QuorumVault.Vault.Shares

namespace QuorumVault.Keysign

variable {ε ρ σ : Type}

/-- The failure of something that is not hexadecimal. -/
def notHex (fault : Hex.Fault) : Error :=
  .of .serialization ("hex: " ++ fault.message)

/-- The failure of something that is not base64. -/
def notBase64 (fault : Base64.Fault) : Error :=
  .of .serialization ("base64: " ++ fault.message)

/-- The local member's share of one of the vault's keys. -/
def share (vault : Vault) (family : Family) : Except Error Bytes := do
  let text ← (vault.findShare (vault.publicKey family)).mapError ShareFault.error
  (Base64.decode text).mapError notBase64

/-- The round for a message. -/
def round (config : EngineConfig) (request : KeysignRequest) (vault : Vault)
    (committee : List String) (scope : String) : Round :=
  .make request.sessionId request.hexEncryptionKey vault.localPartyId committee (some scope)
    config.timeouts.keysignRound config.timeouts

/-- One attempt at signing a message. -/
def attempt (site : Site ε ρ σ) (config : EngineConfig) (request : KeysignRequest) (vault : Vault)
    (committee : List String) (m : KeysignMessage) : Run ε ρ σ KeysignResponse := do
  let scope ← Run.ofExcept (m.scope.mapError notHex)
  let r := round config request vault committee scope
  let share ← Run.ofExcept (share vault m.family)
  let setup ← r.fetchSetup site
  let raw ← Session.withSession site m.family (.sign setup vault.localPartyId share) (r.run site)
  Run.ofExcept ((Signature.respond m.family m.message raw).mapError Signature.OutputFault.error)

/-- A record of the request's session. -/
def note (request : KeysignRequest) (vault : Vault) (kind : Audit.Kind) (message : String) :
    Run ε ρ σ Unit :=
  Run.record (.noted (.make kind request.sessionId vault.localPartyId message))

/-- What messages call the signing of a message. -/
def label (m : KeysignMessage) : String :=
  "keysign " ++ m.family.label ++ " " ++ m.hash

/-- As many attempts at signing a message as are allowed, and a record of how it came out. -/
def attempts (site : Site ε ρ σ) (config : EngineConfig) (request : KeysignRequest) (vault : Vault)
    (committee : List String) (m : KeysignMessage) : Run ε ρ σ KeysignResponse :=
  match config.timeouts.keysignRetry? with
  | none => Run.overflow
  | some policy => do
    let op (_ : Nat) := attempt site config request vault committee m
    match ← Run.attempt (policy.run (label m) op) with
    | .ok response =>
      note request vault .keysign ("signed message " ++ m.hash)
      return response
    | .error e =>
      note request vault (.ofError e) (label m ++ " failed: " ++ e.message)
      Run.fail e

/-- The key that signatures of a family are checked against. -/
def checkingKey (site : Site ε ρ σ) (request : KeysignRequest) (vault : Vault) :
    Family → Run ε ρ σ String
  | .eddsa => return vault.publicKeyEddsa
  | .ecdsa =>
    let path := Text.trim request.derivePath
    if path = "" then return vault.publicKeyEcdsa
    else do
      let share ← Run.ofExcept (share vault .ecdsa)
      return Hex.encode (← Run.queryEngine site .ecdsa (.childKey share path))

def check (site : Site ε ρ σ) (request : KeysignRequest) (vault : Vault) (m : KeysignMessage)
    (response : KeysignResponse) : Run ε ρ σ Unit := do
  let message ← Run.ofExcept (m.bytes.mapError notHex)
  let key ← checkingKey site request vault m.family
  Run.ofExcept ((Signature.check m.family key message response.r response.s).mapError
    Signature.Fault.error)

/-- Checks a signature and makes a record if it does not pass. -/
def verify (site : Site ε ρ σ) (request : KeysignRequest) (vault : Vault) (m : KeysignMessage)
    (response : KeysignResponse) : Run ε ρ σ Unit := do
  match ← Run.attempt (check site request vault m response) with
  | .ok () => return ()
  | .error e =>
    note request vault .verification
      ("signature for " ++ m.hash ++ " did not verify: " ++ e.message)

/-- Signs messages one after the other and adds their signatures to those there are. -/
def signAll (site : Site ε ρ σ) (config : EngineConfig) (request : KeysignRequest) (vault : Vault)
    (committee : List String) : List KeysignMessage → KeysignResults → Run ε ρ σ KeysignResults
  | [], results => return results
  | m :: rest, results => do
    let response ← attempts site config request vault committee m
    verify site request vault m response
    signAll site config request vault committee rest (results.insert m.hash response)

/-- Fetches and opens the vault of the requested key. -/
def openVault (site : Site ε ρ σ) (config : EngineConfig) (request : KeysignRequest) :
    Run ε ρ σ Vault := do
  let fileName := (BackupName.mk request.pluginId request.publicKey).text
  let _ ← Run.ofExcept ((BackupName.ofText fileName).mapError BackupName.Fault.error)
  let content ← Run.askStorage site (.load fileName)
  let vault ← Run.ofExcept
    ((Container.openBytes content config.encryptionSecret).mapError Container.Fault.error)
  if vault.publicKeyEcdsa ≠ request.publicKey then
    Run.fail (.of .validation
      ("vault " ++ fileName ++ " does not belong to public key " ++ request.publicKey))
  else return vault

def gather (site : Site ε ρ σ) (config : EngineConfig) (request : KeysignRequest) (vault : Vault) :
    Run ε ρ σ (List String) := do
  Run.askRelay site (.register request.sessionId vault.localPartyId)
  let committee ←
    Run.askRelay site (.start request.sessionId config.timeouts.keysignSessionStart)
  Run.ofExcept ((Committee.check committee vault.localPartyId (some vault.signers)).mapError
    Committee.Fault.error)
  return committee

/-- Signs the messages of a request and returns the signatures under the messages' names. -/
def signMessages (site : Site ε ρ σ) (config : EngineConfig) (request : KeysignRequest) :
    Run ε ρ σ KeysignResults := do
  Run.ofExcept (request.check.mapError RequestFault.error)
  let vault ← openVault site config request
  let committee ← gather site config request vault
  let results ← signAll site config request vault committee request.messages .empty
  let _ ← Run.attempt (Run.askRelay site (.complete request.sessionId vault.localPartyId))
  return results

end QuorumVault.Keysign
