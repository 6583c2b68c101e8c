import QuorumVault.Audit
import QuorumVault.Ceremony.Committee
import QuorumVault.Ceremony.Keygen
import QuorumVault.Ceremony.Keysign
import QuorumVault.Cipher.Aes
import QuorumVault.Cipher.Gcm
import QuorumVault.Cipher.Sealing
import QuorumVault.Clock.Duration
import QuorumVault.Clock.Moment
import QuorumVault.Config
import QuorumVault.Curve.Edwards25519
import QuorumVault.Curve.Modular
import QuorumVault.Curve.Secp256k1
import QuorumVault.Dictionary
import QuorumVault.Email
import QuorumVault.Encoding.Base64
import QuorumVault.Encoding.Hex
import QuorumVault.Encoding.Integers
import QuorumVault.Engine.Basic
import QuorumVault.Engine.Session
import QuorumVault.Error
import QuorumVault.Hash.Blake3
import QuorumVault.Hash.Sha2
import QuorumVault.Json.Basic
import QuorumVault.Json.Binary64
import QuorumVault.Json.Decoder
import QuorumVault.Json.Fault
import QuorumVault.Json.Reader
import QuorumVault.Json.Value
import QuorumVault.Powers
import QuorumVault.Proofs.Audit
import QuorumVault.Proofs.Ceremony.Admission
import QuorumVault.Proofs.Ceremony.Advisory
import QuorumVault.Proofs.Ceremony.AllOrNothing
import QuorumVault.Proofs.Ceremony.Answers
import QuorumVault.Proofs.Ceremony.Budget
import QuorumVault.Proofs.Ceremony.Creation
import QuorumVault.Proofs.Ceremony.Discipline
import QuorumVault.Proofs.Ceremony.Honest
import QuorumVault.Proofs.Ceremony.Isolation
import QuorumVault.Proofs.Ceremony.Keeping
import QuorumVault.Proofs.Ceremony.Kept
import QuorumVault.Proofs.Ceremony.Meeting
import QuorumVault.Proofs.Ceremony.Openings
import QuorumVault.Proofs.Ceremony.Outcome
import QuorumVault.Proofs.Ceremony.Parting
import QuorumVault.Proofs.Ceremony.Reopening
import QuorumVault.Proofs.Ceremony.Screening
import QuorumVault.Proofs.Ceremony.Signing
import QuorumVault.Proofs.Ceremony.Trail
import QuorumVault.Proofs.Ceremony.Tries
import QuorumVault.Proofs.Ceremony.Work
import QuorumVault.Proofs.Cipher.Sealing
import QuorumVault.Proofs.Clock.Moment
import QuorumVault.Proofs.Dictionary
import QuorumVault.Proofs.Encoding.Base64
import QuorumVault.Proofs.Encoding.Der
import QuorumVault.Proofs.Encoding.Hex
import QuorumVault.Proofs.Engine.Discipline
import QuorumVault.Proofs.Engine.Sessions
import QuorumVault.Proofs.Json.Decoding
import QuorumVault.Proofs.Json.Taking
import QuorumVault.Proofs.Rehearsal.Exchange
import QuorumVault.Proofs.Rehearsal.Pair
import QuorumVault.Proofs.Rehearsal.Prompt
import QuorumVault.Proofs.Rehearsal.Silent
import QuorumVault.Proofs.Relay.Agree
import QuorumVault.Proofs.Relay.Waits
import QuorumVault.Proofs.Request.Keysign
import QuorumVault.Proofs.Request.Responses
import QuorumVault.Proofs.Retry.Attempts
import QuorumVault.Proofs.Retry.Budget
import QuorumVault.Proofs.Retry.Conduct
import QuorumVault.Proofs.Retry.Overrun
import QuorumVault.Proofs.Round.Addressing
import QuorumVault.Proofs.Round.Applied
import QuorumVault.Proofs.Round.Conveyance
import QuorumVault.Proofs.Round.Deletions
import QuorumVault.Proofs.Round.Delivery
import QuorumVault.Proofs.Round.Discipline
import QuorumVault.Proofs.Round.Drained
import QuorumVault.Proofs.Round.Emptied
import QuorumVault.Proofs.Round.Framing
import QuorumVault.Proofs.Round.Inbound
import QuorumVault.Proofs.Round.Messages
import QuorumVault.Proofs.Round.Mirror
import QuorumVault.Proofs.Round.Offers
import QuorumVault.Proofs.Round.Outbound
import QuorumVault.Proofs.Round.Punctual
import QuorumVault.Proofs.Round.ReceiverMoves
import QuorumVault.Proofs.Round.Repeats
import QuorumVault.Proofs.Round.Results
import QuorumVault.Proofs.Round.SenderMoves
import QuorumVault.Proofs.Round.Signal
import QuorumVault.Proofs.Round.Silence
import QuorumVault.Proofs.Round.Sites
import QuorumVault.Proofs.Round.Steps
import QuorumVault.Proofs.Round.Timing
import QuorumVault.Proofs.Round.Turns
import QuorumVault.Proofs.Round.Verdict
import QuorumVault.Proofs.Run.Alike
import QuorumVault.Proofs.Run.EndsIn
import QuorumVault.Proofs.Run.InTime
import QuorumVault.Proofs.Run.Log
import QuorumVault.Proofs.Run.Path
import QuorumVault.Proofs.Run.Timed
import QuorumVault.Proofs.Run.Twin
import QuorumVault.Proofs.Signature
import QuorumVault.Proofs.Text.Digits
import QuorumVault.Proofs.Vault.BackupName
import QuorumVault.Proofs.Vault.Container
import QuorumVault.Proofs.Vault.Storage
import QuorumVault.Rehearsal.Engine
import QuorumVault.Rehearsal.Mailbox
import QuorumVault.Rehearsal.Solo
import QuorumVault.Rehearsal.Storage
import QuorumVault.Relay.Basic
import QuorumVault.Relay.Client
import QuorumVault.Relay.Envelope
import QuorumVault.Relay.Http
import QuorumVault.Relay.Messenger
import QuorumVault.Request.Keygen
import QuorumVault.Request.Keysign
import QuorumVault.Retry.Basic
import QuorumVault.Retry.Policy
import QuorumVault.Round.Applied
import QuorumVault.Round.Basic
import QuorumVault.Round.Pumping
import QuorumVault.Round.Receiver
import QuorumVault.Round.Sender
import QuorumVault.Round.Signal
import QuorumVault.Run.Basic
import QuorumVault.Run.Trace
import QuorumVault.Run.World
import QuorumVault.Signature
import QuorumVault.Text.Accent
import QuorumVault.Text.Blank
import QuorumVault.Text.CodeTable
import QuorumVault.Text.Composed
import QuorumVault.Text.Direction
import QuorumVault.Text.Joining
import QuorumVault.Text.Mark
import QuorumVault.Text.Parts
import QuorumVault.Text.Quoted
import QuorumVault.Text.Shapeless
import QuorumVault.Text.Utf16
import QuorumVault.Text.Utf8
import QuorumVault.Url.Basic
import QuorumVault.Url.DomainName
import QuorumVault.Url.DomainName.Mapping
import QuorumVault.Url.Host
import QuorumVault.Url.Percent
import QuorumVault.Url.Punycode
import QuorumVault.Vault.BackupName
import QuorumVault.Vault.Basic
import QuorumVault.Vault.Container
import QuorumVault.Vault.SealedStore
import QuorumVault.Vault.Shares
import QuorumVault.Vault.Storage
