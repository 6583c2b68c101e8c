/-
The other member sends nothing.

In this rehearsal everyone answers at once, and the setup messages are there, but no
other message ever comes.
-/
import QuorumVault.Proofs.Rehearsal.Prompt
import QuorumVault.Proofs.Round.Turns

namespace QuorumVault.Prompt

/-- What the relay answers if the other member sends nothing. -/
def answerAlone (p : Prompt) : (c : Relay.Call) → Except Error c.Answer
  | .download .. => .ok []
  | c => p.answer c

/-- The site if the other member sends nothing; so many steps of a round are followed. -/
def alone (p : Prompt) (patience : Nat) : Site Unit Unit (SealedStore × Nat) :=
  { p.site with relay := ⟨fun _ _ c => (some 0, p.answerAlone c, ())⟩, patience := patience }

theorem alone_swift (p : Prompt) (patience : Nat) : Round.Swift (p.alone patience) :=
  ⟨fun _ _ _ _ => rfl, fun _ _ _ _ _ _ => rfl⟩

/-- The server's round with a time to receive and a grace. -/
def serverRound (deadline outboundGrace : Duration) : Round where
  sessionId := "session"
  hexEncryptionKey := treasury.keyText
  party := "server"
  committee := ["server", "device"]
  scope := none
  deadline := deadline
  setupTimeout := 0
  pollInterval := 10
  outboundGrace := outboundGrace

/-- The server's session. -/
def serverSession : Session :=
  ⟨.ecdsa, 1, false⟩

/-- How a round of the server comes out if the other member sends nothing. -/
def serverAlone (r : Round) : Ending Bytes × World Unit Unit (SealedStore × Nat) :=
  r.run (treasury.alone 200) serverSession none treasuryStart

/-! ### Ceremonies -/

/-- The configuration of a server that says no more than it must. -/
def usual : EngineConfig :=
  .make "" ""

/-- The server's vault. -/
def treasuryVault : Vault where
  name := "treasury"
  publicKeyEcdsa := "01"
  publicKeyEddsa := "02"
  hexChainCode := "00"
  signers := ["server", "device"]
  localPartyId := "server"
  keyShares := [⟨"01", "AQ=="⟩, ⟨"02", "Ag=="⟩]
  libType := .dkls
  createdAt := default
  resharePrefix := none

/-- A message to sign. -/
def payment : KeysignMessage :=
  ⟨"00", "payment", .eddsa⟩

/-- A request to sign it. -/
def paymentRequest : KeysignRequest where
  publicKey := "01"
  messages := [payment]
  sessionId := "session"
  hexEncryptionKey := treasury.keyText
  derivePath := ""
  pluginId := "plugin"

end QuorumVault.Prompt
