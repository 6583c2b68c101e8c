/-
Rounds.

In a round the local member and the others pass the engine's messages around until
the engine has what it wants.  Two pumps work at it side by side: the sender takes
messages from the engine and leaves them on the relay, the receiver fetches messages
from the relay and hands them to the engine.  They share the engine's session and a
signal, and now and then both of them wait.

This module says what a round is about and what the pumps know; what they do is said
in the modules of either.
-/
import QuorumVault.Config
import QuorumVault.Engine.Session
import QuorumVault.Relay.Messenger
import QuorumVault.Round.Applied
import QuorumVault.Round.Signal

namespace QuorumVault

/-- What a round is about. -/
structure Round where
  sessionId : String
  hexEncryptionKey : String
  party : String
  committee : List String
  /-- What keeps it apart from other rounds of the session. -/
  scope : Option String
  deadline : Duration
  setupTimeout : Duration
  pollInterval : Duration
  /-- How long the sender stays after the round is done. -/
  outboundGrace : Duration
deriving DecidableEq, Repr

namespace Round

/-- A round with configured times. -/
def make (sessionId hexEncryptionKey party : String) (committee : List String)
    (scope : Option String) (deadline : Duration) (timeouts : Timeouts) : Round where
  sessionId := sessionId
  hexEncryptionKey := hexEncryptionKey
  party := party
  committee := committee
  scope := scope
  deadline := deadline
  setupTimeout := timeouts.setupMessage
  pollInterval := timeouts.pollInterval
  outboundGrace := timeouts.outboundGrace

/-- Fetches and opens the setup message. -/
def fetchSetup {ε ρ σ : Type} (site : Site ε ρ σ) (r : Round) : Run ε ρ σ Bytes := do
  let body ← Run.askRelay site (.setup r.sessionId r.scope r.setupTimeout)
  Run.ofExcept ((Sealing.decode r.hexEncryptionKey body).mapError Sealing.Fault.error)

/-- The failure of a round that took too long. -/
def overdue (r : Round) : Error :=
  .of .timeout
    ("round in session " ++ r.sessionId ++ " did not finish within " ++ r.deadline.describe)

/-- The failure of a receiver that saw the sender fail. -/
def aborted : Error :=
  .of .engine "outbound pump aborted the round"

/-- A pause of no length is skipped.  After so many pauses at the same moment the round waits all the
same, so that everyone has a turn. -/
def mostSkipped : Nat :=
  128

/-- One of the pumps. -/
inductive Pump where
  | sender
  | receiver
deriving DecidableEq, Repr

/-- What the sender is doing. -/
inductive Sender where
  | asking
  /-- Waiting for the relay to take an envelope; the message goes to further places after it. -/
  | uploading (message : Bytes) (body : String) (rest : List Nat) (envelope : Envelope)
      (answer : Except Error Unit) (ready : Option Time)
  | pausing (ready : Time)
  | lingering (ready : Time)
  | left (result : Except Error Unit)

/-- What the receiver is doing. -/
inductive Receiver where
  | starting
  | asking
  | downloading (answer : Except Error (List Envelope)) (ready : Option Time)
  /-- Waiting for the relay to take a message away; the rest of the batch follows, unless the engine
  is done. -/
  | deleting (finished : Bool) (rest : List Envelope) (hash : String) (answer : Except Error Unit)
      (ready : Option Time)
  | pausing (ready : Time)
  | left (result : Except Error Bytes)

/-- What the pumps know. -/
structure Pumps where
  session : Session
  signal : RoundState
  applied : Applied
  messenger : Messenger
  sender : Sender
  receiver : Receiver
  wakes : Nat
  /-- Which pumps have had a turn since the round last woke. -/
  served : List Pump
  /-- How many pauses ended or were skipped since the round last woke. -/
  skipped : Nat

/-- The pumps at the start of a round. -/
def start (r : Round) (session : Session) : Pumps where
  session := session
  signal := .created
  applied := .empty
  messenger := ⟨r.sessionId, r.scope, 0⟩
  sender := .asking
  receiver := .starting
  wakes := 0
  served := [.sender, .receiver]
  skipped := 0

namespace Pumps

/-- Whether a pause can be skipped. -/
def skips (p : Pumps) (pause : Duration) : Bool :=
  pause = 0 && p.skipped < mostSkipped

/-- The sender pauses before it asks again. -/
def senderPauses (r : Round) (now : Time) (p : Pumps) : Pumps :=
  if p.skips r.pollInterval then { p with sender := .asking, skipped := p.skipped + 1 }
  else { p with sender := .pausing (now + r.pollInterval.pause) }

/-- The receiver pauses before it looks again. -/
def receiverPauses (r : Round) (now : Time) (p : Pumps) : Pumps :=
  if p.skips r.pollInterval then { p with receiver := .asking, skipped := p.skipped + 1 }
  else { p with receiver := .pausing (now + r.pollInterval.pause) }

def senderLeaves (p : Pumps) (result : Except Error Unit) : Pumps :=
  { p with
    sender := .left result
    signal := match result with
      | .ok () => p.signal
      | .error _ => p.signal.set .failed }

def receiverLeaves (p : Pumps) (result : Except Error Bytes) : Pumps :=
  { p with
    receiver := .left result
    signal := p.signal.set (match result with
      | .ok _ => .finished
      | .error _ => .failed) }

/-- The receiver's time is up. -/
def receiverTimesOut (r : Round) (p : Pumps) : Pumps :=
  { p with
    receiver := .left (.error r.overdue)
    signal := p.signal.set .timedOut }

/-- When the sender wakes, if it waits and ever does. -/
def senderWake (p : Pumps) : Option Time :=
  match p.sender with
  | .uploading _ _ _ _ _ ready => ready
  | .pausing ready => some ready
  | .lingering ready => some ready
  | .asking | .left _ => none

/-- When the receiver wakes of itself, if it waits and ever does. -/
def receiverWake (p : Pumps) : Option Time :=
  match p.receiver with
  | .downloading _ ready => ready
  | .deleting _ _ _ _ ready => ready
  | .pausing ready => some ready
  | .starting | .asking | .left _ => none

def receiverLeft (p : Pumps) : Bool :=
  match p.receiver with
  | .left _ => true
  | _ => false

/-- The receiver need not wait. -/
def receiverReady (p : Pumps) : Bool :=
  match p.receiver with
  | .starting | .asking => true
  | _ => false

/-- The sender need not wait. -/
def senderReady (p : Pumps) : Bool :=
  match p.sender with
  | .asking => true
  | _ => false

/-- The round wakes for a pump. -/
def wake (p : Pumps) (pump : Pump) : Pumps :=
  { p with wakes := p.wakes + 1, served := [pump], skipped := 1 }

/-- A pump has its turn at some time.  The round wakes for it, unless it is awake and the pump has
had no turn yet. -/
def serve (p : Pumps) (now later : Time) (pump : Pump) : Pumps :=
  if now < later ∨ pump ∈ p.served then p.wake pump
  else { p with served := pump :: p.served, skipped := p.skipped + 1 }

end Pumps

end Round

end QuorumVault
