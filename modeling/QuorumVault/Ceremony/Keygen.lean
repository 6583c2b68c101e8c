/-
Creating a vault.

The members meet, and in two rounds, one for either curve, create a key of which each
of them gets a share.  Only when both rounds have succeeded is there a vault; it is
sealed with the password of the request and stored.  Whether the others have finished
too, and whether the vault can be sent to its owner, makes no difference to the vault.

The round for Ed25519 has a scope of its own, so that the messages of the two rounds
do not mix.
-/
import QuorumVault.Ceremony.Committee
import QuorumVault.Email
import QuorumVault.Request.Keygen
import QuorumVault.Retry.Basic
import QuorumVault.Round.Pumping
import QuorumVault.Vault.BackupName
import QuorumVault.Vault.Shares

namespace QuorumVault.Keygen

variable {ε ρ σ : Type}

/-- The scope of the round for a curve. -/
def scope : Family → Option String
  | .ecdsa => none
  | .eddsa => some "eddsa"

/-- What a round leaves. -/
structure Outcome where
  publicKey : String
  /-- The chain code, in hexadecimal, if the curve has one. -/
  chainCode : Option String
  share : String
deriving DecidableEq, Repr

/-- The round for a curve. -/
def round (config : EngineConfig) (request : KeygenRequest) (committee : List String)
    (family : Family) : Round :=
  .make request.sessionId request.hexEncryptionKey request.localPartyId committee (scope family)
    config.timeouts.keygenRound config.timeouts

/-- The chain code that goes with a share. -/
def chainCode (site : Site ε ρ σ) (raw : Bytes) : Family → Run ε ρ σ (Option String)
  | .ecdsa => do return some (Hex.encode (← Run.queryEngine site .ecdsa (.chainCode raw)))
  | .eddsa => return none

/-- One attempt at a round. -/
def attempt (site : Site ε ρ σ) (config : EngineConfig) (request : KeygenRequest)
    (committee : List String) (family : Family) : Run ε ρ σ Outcome := do
  let r := round config request committee family
  let setup ← r.fetchSetup site
  let raw ← Session.withSession site family (.keygen setup request.localPartyId) (r.run site)
  let publicKey ← Run.queryEngine site family (.publicKey raw)
  let chain ← chainCode site raw family
  return ⟨Hex.encode publicKey, chain, Base64.encode raw⟩

/-- A record of the request's session. -/
def note (request : KeygenRequest) (kind : Audit.Kind) (message : String) : Run ε ρ σ Unit :=
  Run.record (.noted (.make kind request.sessionId request.localPartyId message))

/-- What messages call the round for a curve. -/
def label (family : Family) : String :=
  "keygen " ++ family.label

/-- As many attempts at a round as are allowed, and a record of how it came out. -/
def attempts (site : Site ε ρ σ) (config : EngineConfig) (request : KeygenRequest)
    (committee : List String) (family : Family) : Run ε ρ σ Outcome :=
  match config.timeouts.keygenRetry? with
  | none => Run.overflow
  | some policy => do
    let op (_ : Nat) := attempt site config request committee family
    match ← Run.attempt (policy.run (label family) op) with
    | .ok outcome =>
      note request .keygen (family.label ++ " key " ++ outcome.publicKey ++ " generated")
      return outcome
    | .error e =>
      note request (.ofError e) (label family ++ " failed: " ++ e.message)
      Run.fail e

/-- Tells the relay that the local member has finished, and waits for the others. -/
def leave (site : Site ε ρ σ) (request : KeygenRequest) (committee : List String) :
    Run ε ρ σ Unit := do
  let _ ← Run.attempt (Run.askRelay site (.complete request.sessionId request.localPartyId))
  let _ ← Run.attempt (Run.askRelay site (.completed request.sessionId committee))

/-- The shares of both rounds, under their public keys. -/
def shares (ecdsa eddsa : Outcome) : MemoryShares :=
  (Dictionary.empty.insert ecdsa.publicKey ecdsa.share).insert eddsa.publicKey eddsa.share

/-- The share of a round, as it is kept. -/
def keyShare (kept : MemoryShares) (outcome : Outcome) : Except ShareFault KeyShare := do
  return ⟨outcome.publicKey, ← kept.find outcome.publicKey⟩

/-- The vault that the rounds make. -/
def vault (request : KeygenRequest) (committee : List String) (ecdsa eddsa : Outcome)
    (createdAt : Moment) : Except ShareFault Vault := do
  let kept := shares ecdsa eddsa
  return {
    name := request.name
    publicKeyEcdsa := ecdsa.publicKey
    publicKeyEddsa := eddsa.publicKey
    hexChainCode := ecdsa.chainCode.getD ""
    signers := committee
    localPartyId := request.localPartyId
    keyShares := [← keyShare kept ecdsa, ← keyShare kept eddsa]
    libType := .dkls
    createdAt := createdAt
    resharePrefix := none }

/-- The task of sending a vault, if it is wanted, enabled and possible. -/
def emailTask? (site : Site ε ρ σ) (config : EngineConfig) (request : KeygenRequest)
    (fileName content : String) : Option EmailBackupTask :=
  match request.email with
  | some email =>
    if ¬ Text.Blank email ∧ config.emailBackupEnabled ∧ site.hasQueue then
      some ⟨request.name, email, fileName, content⟩
    else none
  | none => none

/-- Hands the task of sending a vault to the queue; what becomes of it there is not waited for. -/
def sendBackup (site : Site ε ρ σ) (config : EngineConfig) (request : KeygenRequest)
    (fileName content : String) : Run ε ρ σ Unit :=
  match emailTask? site config request fileName content with
  | some task => Run.record (.queued EmailBackupTask.taskType task.payload)
  | none => return ()

def gather (site : Site ε ρ σ) (config : EngineConfig) (request : KeygenRequest) :
    Run ε ρ σ (List String) := do
  Run.askRelay site (.register request.sessionId request.localPartyId)
  let committee ←
    Run.askRelay site (.start request.sessionId config.timeouts.keygenSessionStart)
  Run.ofExcept ((Committee.check committee request.localPartyId none).mapError Committee.Fault.error)
  return committee

/-- Creates a vault and returns its public keys. -/
def createVault (site : Site ε ρ σ) (config : EngineConfig) (request : KeygenRequest) :
    Run ε ρ σ (String × String) := do
  Run.ofExcept (request.check.mapError RequestFault.error)
  let committee ← gather site config request
  let ecdsa ← attempts site config request committee .ecdsa
  Run.wait (some config.timeouts.settleDelay.pause)
  let eddsa ← attempts site config request committee .eddsa
  leave site request committee
  let createdAt := site.calendar (← Run.now)
  let vault ← Run.ofExcept ((vault request committee ecdsa eddsa createdAt).mapError ShareFault.error)
  let container := Container.ofVault vault request.encryptionPassword (← Run.nonce site)
  let fileName := (BackupName.mk request.pluginId vault.publicKeyEcdsa).text
  Run.askStorage site (.save fileName container.text)
  sendBackup site config request fileName container.text
  return (ecdsa.publicKey, eddsa.publicKey)

end QuorumVault.Keygen
