/-
The sender of a round.

The sender asks the engine for messages as long as it has any.  Each is sealed once and
the same body goes to every member whom the engine names, place by place of the
committee.  An envelope that the relay refuses is lost and nothing else: its number is
used up and the next one goes out.  A failure of the engine or an unusable key ends the
sender, and the signal tells the receiver.

When the engine has nothing, the signal decides: in a round under way the sender asks
again after a pause, it leaves a round that failed, and it stays a little in one that
is done.
-/
import QuorumVault.Round.Basic

namespace QuorumVault.Round

variable {ε ρ σ : Type}

/-- Sends a sealed message to the members whom the engine names at the given places. -/
def deliver (site : Site ε ρ σ) (r : Round) (message : Bytes) (body : String) :
    List Nat → Pumps → World ε ρ σ → Pumps × World ε ρ σ
  | [], p, w => ({ p with sender := .asking }, w)
  | index :: rest, p, w =>
    match w.callEngine site p.session.family (.receiver p.session.handle message index) with
    | (.error e, w) => (p.senderLeaves (.error e), w)
    | (.ok none, w) => deliver site r message body rest p w
    | (.ok (some recipient), w) =>
      if recipient = "" then deliver site r message body rest p w
      else
        let envelope := p.messenger.envelope r.party recipient body
        let p := { p with messenger := p.messenger.next }
        match w.askRelay site (.upload envelope r.scope) with
        | (some 0, answer, w) =>
          deliver site r message body rest p (w.record (.answered (.upload envelope r.scope) answer))
        | (took, answer, w) =>
          ({ p with sender := .uploading message body rest envelope answer (took.map (w.now + ·)) }, w)

/-- Asks the engine for a message and sends it, or decides what to do without one. -/
def askOutput (site : Site ε ρ σ) (r : Round) (p : Pumps) (w : World ε ρ σ) : Pumps × World ε ρ σ :=
  match w.callEngine site p.session.family (.output p.session.handle) with
  | (.error e, w) => (p.senderLeaves (.error e), w)
  | (.ok none, w) =>
    match p.signal with
    | .finished => ({ p with sender := .lingering (w.now + r.outboundGrace.pause) }, w)
    | .timedOut | .failed => (p.senderLeaves (.ok ()), w)
    | .created | .awaitingMessages => (p.senderPauses r w.now, w)
  | (.ok (some message), w) =>
    match Sealing.encode r.hexEncryptionKey (site.nonce w.sealings) message with
    | .error fault => (p.senderLeaves (.error fault.error), w)
    | .ok body => deliver site r message body (List.range r.committee.length) p w.sealOnce

/-- What the sender does when its turn comes, until it waits or has dealt with one message. -/
def senderTurn (site : Site ε ρ σ) (r : Round) (p : Pumps) (w : World ε ρ σ) : Pumps × World ε ρ σ :=
  match p.sender with
  | .asking => askOutput site r p w
  | .uploading message body rest envelope answer _ =>
    deliver site r message body rest p (w.record (.answered (.upload envelope r.scope) answer))
  | .pausing _ => askOutput site r p w
  | .lingering _ => (p.senderLeaves (.ok ()), w)
  | .left _ => (p, w)

end QuorumVault.Round
