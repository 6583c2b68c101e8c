/-
Both pumps of a round, side by side.

The sender begins and goes on until it waits; then the receiver looks for messages for
the first time.  From then on the pump whose time comes first has its turn, and the
site decides when the round wakes for both.  Pauses of no length are skipped, but not
for ever: after many of them the other pump has a turn.  The round is over when both
pumps are gone.  If the sender failed, that is how the round failed; else the
receiver's result is the result of the round.
-/
import QuorumVault.Round.Receiver
import QuorumVault.Round.Sender

namespace QuorumVault.Round

variable {ε ρ σ : Type}

/-- The result of a round whose pumps are both gone. -/
def Pumps.result? (p : Pumps) : Option (Except Error Bytes) :=
  match p.sender, p.receiver with
  | .left (.error e), .left _ => some (.error e)
  | .left (.ok ()), .left result => some result
  | _, _ => none

/-- Whether the receiver goes first of two pumps that are due at the same time.  In a round that is
awake the pump goes first that has had no turn yet; when it wakes for both, the site decides. -/
def receiverGoes (site : Site ε ρ σ) (now due : Time) (p : Pumps) : Bool :=
  if due ≤ now && p.served = [.sender] then true
  else if due ≤ now && p.served = [.receiver] then false
  else site.receiverFirst p.wakes

/-- Which pump's turn comes next and when, if any one's ever does. -/
def nextTurn (site : Site ε ρ σ) (deadline now : Time) (p : Pumps) : Option (Time × Pump) :=
  match p.senderWake, receiverDue deadline p with
  | none, none => none
  | some s, none => some (s, .sender)
  | none, some t => some (t, .receiver)
  | some s, some t =>
    if s < t ∨ s = t ∧ !receiverGoes site now t p then some (s, .sender) else some (t, .receiver)

def turn (site : Site ε ρ σ) (r : Round) (deadline : Time) : Pump → Pumps → World ε ρ σ →
    Pumps × World ε ρ σ
  | .sender => senderTurn site r
  | .receiver => receiverTurn site r deadline

/-- What happens next in a round. -/
inductive Next where
  | atOnce (pump : Pump)
  | ended (result : Except Error Bytes)
  | later (time : Time) (pump : Pump)
  | nothing

/-- What happens next in a round. -/
def next (site : Site ε ρ σ) (deadline now : Time) (p : Pumps) : Next :=
  if p.senderReady then .atOnce .sender
  else if p.receiverReady then .atOnce .receiver
  else
    match p.result? with
    | some result => .ended result
    | none =>
      match nextTurn site deadline now p with
      | some (t, pump) => .later t pump
      | none => .nothing

/-- A number of steps of a round. -/
def steps (site : Site ε ρ σ) (r : Round) (deadline : Time) (limit : Option Time) :
    Nat → Pumps → World ε ρ σ → Ending Bytes × World ε ρ σ
  | 0, _, w => (.endless, w)
  | patience + 1, p, w =>
    match next site deadline w.now p with
    | .atOnce pump =>
      let (p, w) := turn site r deadline pump p w
      steps site r deadline limit patience p w
    | .ended (.ok raw) => (.done raw, w)
    | .ended (.error e) => (.failed e, w)
    | .later t pump =>
      if Run.exceeds limit t then Run.expire limit w
      else
        let (p, w) := turn site r deadline pump (p.serve w.now t pump) (w.advanceTo t)
        steps site r deadline limit patience p w
    | .nothing => Run.expire limit w

/-- Runs a round in a session of the engine. -/
def run (site : Site ε ρ σ) (r : Round) (session : Session) : Run ε ρ σ Bytes :=
  fun limit w => steps site r (w.now + r.deadline) limit site.patience (r.start session) w

end QuorumVault.Round
