/-
The configuration of a node.

Times for sessions and rounds are configured in whole seconds, pauses in whole
milliseconds.  The time for all attempts at a round follows from them: every attempt
may need its whole time for the setup message and for the round, and five seconds are
left for the pauses.
-/
import QuorumVault.Error
import QuorumVault.Json.Decoder
import QuorumVault.Retry.Policy
import QuorumVault.Text.Blank

namespace QuorumVault

/-- How long things may take. -/
structure Timeouts where
  keygenSessionStart : Duration
  keysignSessionStart : Duration
  keygenRound : Duration
  keysignRound : Duration
  setupMessage : Duration
  pollInterval : Duration
  /-- How long the sender stays after the round is done. -/
  outboundGrace : Duration
  /-- The pause between the two rounds that create a vault. -/
  settleDelay : Duration
  retryAttempts : Nat
  retryBackoff : Duration
deriving DecidableEq, Repr

namespace Timeouts

/-- What holds unless configured otherwise. -/
instance : Inhabited Timeouts :=
  ⟨{ keygenSessionStart := Duration.seconds 300
     keysignSessionStart := Duration.seconds 183
     keygenRound := Duration.seconds 120
     keysignRound := Duration.seconds 60
     setupMessage := Duration.seconds 60
     pollInterval := 100
     outboundGrace := 1000
     settleDelay := 500
     retryAttempts := 3
     retryBackoff := 50 }⟩

/-- A time in whole seconds. -/
def seconds : Json.Decoder Duration :=
  (Json.Decoder.natural 64).map Duration.seconds

/-- A time in whole milliseconds. -/
def milliseconds : Json.Decoder Duration :=
  .natural 64

/-- The shape of the times; what is not given has its usual value. -/
def decoder : Json.Decoder Timeouts :=
  open Json.Decoder in
  record "Timeouts"
    [optional "keygen_session_start" seconds fun x t => { t with keygenSessionStart := x },
      optional "keysign_session_start" seconds fun x t => { t with keysignSessionStart := x },
      optional "keygen_round" seconds fun x t => { t with keygenRound := x },
      optional "keysign_round" seconds fun x t => { t with keysignRound := x },
      optional "setup_message" seconds fun x t => { t with setupMessage := x },
      optional "poll_interval" milliseconds fun x t => { t with pollInterval := x },
      optional "outbound_grace" milliseconds fun x t => { t with outboundGrace := x },
      optional "settle_delay" milliseconds fun x t => { t with settleDelay := x },
      optional "retry_attempts" (natural 32) fun x t => { t with retryAttempts := x },
      optional "retry_backoff" milliseconds fun x t => { t with retryBackoff := x }]
    default

/-- The time for all attempts at a round. -/
def roundBudget (t : Timeouts) (round : Duration) : Duration :=
  (round + t.setupMessage) * max t.retryAttempts 1 + Duration.seconds 5

/-- The policy for a round of the given time, unless its budget is more than a span can hold. -/
def retry? (t : Timeouts) (round : Duration) : Option RetryPolicy :=
  let budget := t.roundBudget round
  if budget / 1000 ≤ Duration.maxSeconds then
    some ((RetryPolicy.make t.retryAttempts t.retryBackoff).withOverallDeadline budget)
  else none

/-- The policy for rounds that create a key. -/
def keygenRetry? (t : Timeouts) : Option RetryPolicy :=
  t.retry? t.keygenRound

/-- The policy for rounds that sign. -/
def keysignRetry? (t : Timeouts) : Option RetryPolicy :=
  t.retry? t.keysignRound

end Timeouts

/-- The configuration of a node. -/
structure EngineConfig where
  relayServer : String
  /-- The password of the vaults that are used for signing. -/
  encryptionSecret : String
  emailBackupEnabled : Bool
  timeouts : Timeouts
deriving DecidableEq, Repr

namespace EngineConfig

/-- A configuration that says no more than it must; slashes behind the address are dropped. -/
def make (relayServer encryptionSecret : String) : EngineConfig :=
  ⟨Text.trimEndOf '/' relayServer, encryptionSecret, false, default⟩

/-- The shape of a configuration. -/
def decoder : Json.Decoder EngineConfig :=
  open Json.Decoder in
  record "EngineConfig"
    [field "relay_server" string fun x c => { c with relayServer := x },
      field "encryption_secret" string fun x c => { c with encryptionSecret := x },
      optional "email_backup_enabled" bool fun x c => { c with emailBackupEnabled := x },
      optional "timeouts" Timeouts.decoder fun x c => { c with timeouts := x }]
    ⟨"", "", false, default⟩

/-- The words for yes, in any case of letters and with white space around them. -/
def isYes (text : String) : Bool :=
  ["1", "true", "yes", "on"].contains (String.ofList ((Text.trim text).toList.map Char.toLower))

/-- A variable that has to be set. -/
def required (environment : String → Option String) (name : String) : Except Error String :=
  match environment name with
  | some value => .ok value
  | none => .error (.of .validation (name ++ " is not set"))

/-- The configuration that the variables of the environment give. -/
def ofEnvironment (environment : String → Option String) : Except Error EngineConfig := do
  let relayServer ← required environment "RELAY_SERVER"
  let secret ← required environment "VAULT_ENCRYPTION_SECRET"
  return { make relayServer secret with
    emailBackupEnabled := (environment "EMAIL_BACKUP_ENABLED").elim false isYes }

end EngineConfig

end QuorumVault
