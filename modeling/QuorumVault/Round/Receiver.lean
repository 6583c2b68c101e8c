/-
The receiver of a round.

The receiver fetches messages in batches.  It passes over what the local member sent
and what was applied before; all else is opened and handed to the engine, then
remembered and taken off the relay.  Whether the relay complies does not matter.  A
message that cannot be opened, a failing engine and a failing download end the
receiver.  When the engine says that it has what it needs, the rest of the batch is
left alone and the result is demanded.

The sender's failure is noticed between batches only, and the deadline while waiting:
a batch that is there is worked through.
-/
import QuorumVault.Round.Basic

namespace QuorumVault.Round

variable {ε ρ σ : Type}

/-- Demands the result of the engine. -/
def finishRound (site : Site ε ρ σ) (p : Pumps) (w : World ε ρ σ) : Pumps × World ε ρ σ :=
  let (answer, session, w) := p.session.finish site w
  ({ p with session := session }.receiverLeaves answer, w)

/-- Hands messages to the engine, until the batch or the round is done or the relay lets wait. -/
def applyBatch (site : Site ε ρ σ) (r : Round) :
    List Envelope → Pumps → World ε ρ σ → Pumps × World ε ρ σ
  | [], p, w => (p.receiverPauses r w.now, w)
  | m :: rest, p, w =>
    let name := Applied.key r.sessionId r.party r.scope m.hash
    if m.sender = r.party ∨ p.applied.contains name then applyBatch site r rest p w
    else
      match Sealing.decode r.hexEncryptionKey m.body with
      | .error fault => (p.receiverLeaves (.error fault.error), w)
      | .ok message =>
        match w.callEngine site p.session.family (.input p.session.handle message) with
        | (.error e, w) => (p.receiverLeaves (.error e), w)
        | (.ok finished, w) =>
          let p := { p with applied := p.applied.insert name }
          match w.askRelay site (.delete r.sessionId r.party m.hash r.scope) with
          | (some 0, answer, w) =>
            let w := w.record (.answered (.delete r.sessionId r.party m.hash r.scope) answer)
            if finished then finishRound site p w else applyBatch site r rest p w
          | (took, answer, w) =>
            ({ p with receiver := .deleting finished rest m.hash answer (took.map (w.now + ·)) }, w)

/-- Takes the relay's answer to a download. -/
def takeBatch (site : Site ε ρ σ) (r : Round) (answer : Except Error (List Envelope)) (p : Pumps)
    (w : World ε ρ σ) : Pumps × World ε ρ σ :=
  let w := w.record (.answered (.download r.sessionId r.party r.scope) answer)
  match answer with
  | .error e => (p.receiverLeaves (.error e), w)
  | .ok messages => applyBatch site r messages p w

/-- Looks for messages, unless the sender has failed. -/
def askBatch (site : Site ε ρ σ) (r : Round) (p : Pumps) (w : World ε ρ σ) : Pumps × World ε ρ σ :=
  if p.signal = .failed then (p.receiverLeaves (.error aborted), w)
  else
    match w.askRelay site (.download r.sessionId r.party r.scope) with
    | (some 0, answer, w) => takeBatch site r answer p w
    | (took, answer, w) => ({ p with receiver := .downloading answer (took.map (w.now + ·)) }, w)

/-- What the receiver does when its turn comes, until it waits or is about to look again. -/
def receive (site : Site ε ρ σ) (r : Round) (p : Pumps) (w : World ε ρ σ) : Pumps × World ε ρ σ :=
  match p.receiver with
  | .starting => askBatch site r { p with signal := p.signal.set .awaitingMessages } w
  | .downloading answer _ => takeBatch site r answer p w
  | .deleting finished rest hash answer _ =>
    let w := w.record (.answered (.delete r.sessionId r.party hash r.scope) answer)
    if finished then finishRound site p w else applyBatch site r rest p w
  | .asking => askBatch site r p w
  | .pausing _ => askBatch site r p w
  | .left _ => (p, w)

/-- Goes on until the receiver waits: as often as it skips a pause. -/
def receiveOn (site : Site ε ρ σ) (r : Round) : Nat → Pumps → World ε ρ σ → Pumps × World ε ρ σ
  | 0, p, w => (p, w)
  | bound + 1, p, w =>
    let (p, w) := receive site r p w
    if p.receiverReady then receiveOn site r bound p w else (p, w)

/-- The receiver's turn under its deadline: if it is not due yet, or waits afterwards, and the
deadline has come, its time is up.  Nobody looks at the deadline when others have skipped all pauses
there were before. -/
def receiverTurn (site : Site ε ρ σ) (r : Round) (deadline : Time) (p : Pumps) (w : World ε ρ σ) :
    Pumps × World ε ρ σ :=
  let looks := p.skipped < mostSkipped
  let due := p.receiverReady || p.receiverWake.any (· ≤ w.now)
  let (p, w) := if due then receiveOn site r (mostSkipped + 1) p w else (p, w)
  if !p.receiverLeft && looks && deadline ≤ w.now then (p.receiverTimesOut r, w) else (p, w)

/-- When the receiver's turn comes: when it wakes of itself, but no later than at its deadline. -/
def receiverDue (deadline : Time) (p : Pumps) : Option Time :=
  if p.receiverLeft then none else some (p.receiverWake.elim deadline (min deadline))

end QuorumVault.Round
