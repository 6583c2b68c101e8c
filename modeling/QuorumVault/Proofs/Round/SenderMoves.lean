/-
The moves of the sender.

A turn of the sender is broken up into moves: one for each answer of the engine and each
step of handing an envelope to the relay.  Each case says what must hold for the move,
what it logs and what it leaves, so that a law about senders is a case analysis over
them and nobody looks at `deliver` or `askOutput` again.  `senderTurn_path` says that a
turn consists of such moves.
-/
import QuorumVault.Proofs.Run.Path
import QuorumVault.Round.Sender

namespace QuorumVault.Round

variable {ε ρ σ : Type}

/-- Where the sender stands in its turn. -/
inductive Sending where
  | idle
  | delivering (message : Bytes) (body : String) (places : List Nat)
  | uploading (message : Bytes) (body : String) (places : List Nat) (envelope : Envelope)
      (answer : Except Error Unit)

/-- The sender is about to ask the engine when its turn comes. -/
def Pumps.asksOutput (p : Pumps) : Bool :=
  match p.sender with
  | .asking | .pausing _ => true
  | .uploading .. | .lingering _ | .left _ => false

/-- A state in a sender's turn. -/
structure SenderAt (ε ρ σ : Type) where
  doing : Sending
  pumps : Pumps
  world : World ε ρ σ

/-- What the engine is asked for messages with. -/
abbrev Pumps.outputCall (p : Pumps) : Engine.Call :=
  .output p.session.handle

/-- What the engine is asked for a recipient with. -/
abbrev Pumps.receiverCall (p : Pumps) (message : Bytes) (place : Nat) : Engine.Call :=
  .receiver p.session.handle message place

/-- The moves of the sender. -/
inductive SenderMove (site : Site ε ρ σ) (r : Round) :
    SenderAt ε ρ σ → List Event → SenderAt ε ρ σ → Prop
  | outputFails {p w w' e} (asks : p.asksOutput = true)
      (call : w.callEngine site p.session.family p.outputCall = (.error e, w')) :
      SenderMove site r ⟨.idle, p, w⟩ [.engine p.session.family p.outputCall (.error e)]
        ⟨.idle, p.senderLeaves (.error e), w'⟩
  | lingers {p w w'} (asks : p.asksOutput = true)
      (call : w.callEngine site p.session.family p.outputCall = (.ok none, w'))
      (signal : p.signal = .finished) :
      SenderMove site r ⟨.idle, p, w⟩ [.engine p.session.family p.outputCall (.ok none)]
        ⟨.idle, { p with sender := .lingering (w'.now + r.outboundGrace.pause) }, w'⟩
  | quits {p w w'} (asks : p.asksOutput = true)
      (call : w.callEngine site p.session.family p.outputCall = (.ok none, w'))
      (signal : p.signal = .timedOut ∨ p.signal = .failed) :
      SenderMove site r ⟨.idle, p, w⟩ [.engine p.session.family p.outputCall (.ok none)]
        ⟨.idle, p.senderLeaves (.ok ()), w'⟩
  | pauses {p w w'} (asks : p.asksOutput = true)
      (call : w.callEngine site p.session.family p.outputCall = (.ok none, w'))
      (signal : p.signal.isTerminal = false) :
      SenderMove site r ⟨.idle, p, w⟩ [.engine p.session.family p.outputCall (.ok none)]
        ⟨.idle, p.senderPauses r w'.now, w'⟩
  | unsealable {p w w' message fault} (asks : p.asksOutput = true)
      (call : w.callEngine site p.session.family p.outputCall = (.ok (some message), w'))
      (sealed : Sealing.encode r.hexEncryptionKey (site.nonce w'.sealings) message = .error fault) :
      SenderMove site r ⟨.idle, p, w⟩ [.engine p.session.family p.outputCall (.ok (some message))]
        ⟨.idle, p.senderLeaves (.error fault.error), w'⟩
  | seals {p w w' message body} (asks : p.asksOutput = true)
      (call : w.callEngine site p.session.family p.outputCall = (.ok (some message), w'))
      (sealed : Sealing.encode r.hexEncryptionKey (site.nonce w'.sealings) message = .ok body) :
      SenderMove site r ⟨.idle, p, w⟩ [.engine p.session.family p.outputCall (.ok (some message))]
        ⟨.delivering message body (List.range r.committee.length), p, w'.sealOnce⟩
  | delivered {p w message body} :
      SenderMove site r ⟨.delivering message body [], p, w⟩ []
        ⟨.idle, { p with sender := .asking }, w⟩
  | receiverFails {p w w' message body place places e}
      (call : w.callEngine site p.session.family (p.receiverCall message place) = (.error e, w')) :
      SenderMove site r ⟨.delivering message body (place :: places), p, w⟩
        [.engine p.session.family (p.receiverCall message place) (.error e)]
        ⟨.idle, p.senderLeaves (.error e), w'⟩
  | skips {p w w' message body place places recipient}
      (call : w.callEngine site p.session.family (p.receiverCall message place)
        = (.ok recipient, w'))
      (nobody : recipient.getD "" = "") :
      SenderMove site r ⟨.delivering message body (place :: places), p, w⟩
        [.engine p.session.family (p.receiverCall message place) (.ok recipient)]
        ⟨.delivering message body places, p, w'⟩
  | uploads {p w w₁ w' message body place places recipient took answer}
      (call : w.callEngine site p.session.family (p.receiverCall message place)
        = (.ok (some recipient), w₁))
      (somebody : recipient ≠ "")
      (ask : w₁.askRelay site (.upload (p.messenger.envelope r.party recipient body) r.scope)
        = (took, answer, w')) :
      SenderMove site r ⟨.delivering message body (place :: places), p, w⟩
        [.engine p.session.family (p.receiverCall message place) (.ok (some recipient)),
          .asked (.upload (p.messenger.envelope r.party recipient body) r.scope)]
        ⟨.uploading message body places (p.messenger.envelope r.party recipient body) answer,
          { p with messenger := p.messenger.next }, w'⟩
  | uploadWaits {p w message body places envelope answer} (ready : Option Time) :
      SenderMove site r ⟨.uploading message body places envelope answer, p, w⟩ []
        ⟨.idle, { p with sender := .uploading message body places envelope answer ready }, w⟩
  | uploadResumes {p w message body places envelope answer ready}
      (h : p.sender = .uploading message body places envelope answer ready) :
      SenderMove site r ⟨.idle, p, w⟩ [] ⟨.uploading message body places envelope answer, p, w⟩
  | uploaded {p w message body places envelope answer} :
      SenderMove site r ⟨.uploading message body places envelope answer, p, w⟩
        [.answered (.upload envelope r.scope) answer]
        ⟨.delivering message body places, p, w.record (.answered (.upload envelope r.scope) answer)⟩
  | leaves {p w ready} (h : p.sender = .lingering ready) :
      SenderMove site r ⟨.idle, p, w⟩ [] ⟨.idle, p.senderLeaves (.ok ()), w⟩

variable {site : Site ε ρ σ} {r : Round}

/-! ### A turn consists of moves -/

/-- Every place is dealt with in moves. -/
theorem deliver_path (site : Site ε ρ σ) (r : Round) (message : Bytes) (body : String)
    (places : List Nat) (p : Pumps) (w : World ε ρ σ) :
    ∃ log, Path (SenderMove site r) ⟨.delivering message body places, p, w⟩ log
      ⟨.idle, (deliver site r message body places p w).1,
        (deliver site r message body places p w).2⟩ := by
  induction places generalizing p w with
  | nil => exact ⟨_, .single .delivered⟩
  | cons place places ih =>
      rw [deliver]
      rcases call : w.callEngine site p.session.family (.receiver p.session.handle message place)
        with ⟨answer, w₁⟩
      match answer with
      | .error e => exact ⟨_, .single (.receiverFails call)⟩
      | .ok none =>
          obtain ⟨log, rest⟩ := ih p w₁
          exact ⟨_, .step (.skips call rfl) rest⟩
      | .ok (some recipient) =>
          dsimp only
          by_cases nobody : recipient = ""
          · rw [if_pos nobody]
            obtain ⟨log, rest⟩ := ih p w₁
            exact ⟨_, .step (.skips call nobody) rest⟩
          · rw [if_neg nobody]
            rcases ask : w₁.askRelay site
              (.upload (p.messenger.envelope r.party recipient body) r.scope) with ⟨took, answer, w₂⟩
            have upload : SenderMove site r ⟨.delivering message body (place :: places), p, w⟩ _ _ :=
              .uploads call nobody ask
            match took with
            | some 0 =>
                obtain ⟨log, rest⟩ := ih { p with messenger := p.messenger.next }
                  (w₂.record (.answered
                    (.upload (p.messenger.envelope r.party recipient body) r.scope) answer))
                exact ⟨_, .step upload (.step .uploaded rest)⟩
            | none => exact ⟨_, .step upload (.single (.uploadWaits none))⟩
            | some (d + 1) => exact ⟨_, .step upload (.single (.uploadWaits _))⟩

theorem askOutput_path (site : Site ε ρ σ) (r : Round) {p : Pumps} (asks : p.asksOutput = true)
    (w : World ε ρ σ) :
    ∃ log, Path (SenderMove site r) ⟨.idle, p, w⟩ log
      ⟨.idle, (askOutput site r p w).1, (askOutput site r p w).2⟩ := by
  unfold askOutput
  rcases call : w.callEngine site p.session.family (.output p.session.handle) with ⟨answer, w₁⟩
  match answer with
  | .error e => exact ⟨_, .single (.outputFails asks call)⟩
  | .ok none =>
      dsimp only
      split
      · next signal => exact ⟨_, .single (.lingers asks call signal)⟩
      · next signal => exact ⟨_, .single (.quits asks call (.inl signal))⟩
      · next signal => exact ⟨_, .single (.quits asks call (.inr signal))⟩
      · next signal => exact ⟨_, .single (.pauses asks call (by rw [signal]; rfl))⟩
      · next signal => exact ⟨_, .single (.pauses asks call (by rw [signal]; rfl))⟩
  | .ok (some message) =>
      dsimp only
      cases sealed : Sealing.encode r.hexEncryptionKey (site.nonce w₁.sealings) message with
      | error fault => exact ⟨_, .single (.unsealable asks call sealed)⟩
      | ok body =>
          obtain ⟨log, rest⟩ := deliver_path site r message body (List.range r.committee.length) p
            w₁.sealOnce
          exact ⟨_, .step (.seals asks call sealed) rest⟩

/-- A turn of the sender consists of moves. -/
theorem senderTurn_path (site : Site ε ρ σ) (r : Round) (p : Pumps) (w : World ε ρ σ) :
    ∃ log, Path (SenderMove site r) ⟨.idle, p, w⟩ log
      ⟨.idle, (senderTurn site r p w).1, (senderTurn site r p w).2⟩ := by
  unfold senderTurn
  cases h : p.sender with
  | asking => exact askOutput_path site r (by rw [Pumps.asksOutput, h]) w
  | pausing ready => exact askOutput_path site r (by rw [Pumps.asksOutput, h]) w
  | uploading message body places envelope answer ready =>
      obtain ⟨log, rest⟩ := deliver_path site r message body places p
        (w.record (.answered (.upload envelope r.scope) answer))
      exact ⟨_, .silently (.uploadResumes h) (.step .uploaded rest)⟩
  | lingering ready => exact ⟨_, .single (.leaves h)⟩
  | left result => exact ⟨[], .refl _⟩

/-! ### What all moves have in common -/

theorem SenderMove.since {s s' : SenderAt ε ρ σ} {log : List Event}
    (move : SenderMove site r s log s') : s.world.Since s'.world log := by
  cases move with
  | outputFails asks call => exact World.since_callEngine call
  | lingers asks call => exact World.since_callEngine call
  | quits asks call => exact World.since_callEngine call
  | pauses asks call => exact World.since_callEngine call
  | unsealable asks call => exact World.since_callEngine call
  | seals asks call => exact (World.since_callEngine call).sealOnce
  | delivered => exact .refl _
  | receiverFails call => exact World.since_callEngine call
  | skips call => exact World.since_callEngine call
  | uploads call somebody ask => exact (World.since_callEngine call).trans (World.since_askRelay ask)
  | uploadWaits => exact .refl _
  | uploadResumes => exact .refl _
  | uploaded => exact World.since_record _ _
  | leaves => exact .refl _

theorem SenderMove.now_eq {s s' : SenderAt ε ρ σ} {log : List Event}
    (move : SenderMove site r s log s') : s'.world.now = s.world.now := by
  cases move with
  | outputFails _ call | lingers _ call | quits _ call | pauses _ call | unsealable _ call
  | receiverFails call | skips call => exact World.now_callEngine call
  | seals _ call => exact (World.now_callEngine call : _)
  | uploads call _ ask => exact (World.now_askRelay ask).trans (World.now_callEngine call)
  | delivered | uploadWaits | uploadResumes | uploaded | leaves => rfl

/-- The sender leaves the session, the receiver and what was applied alone, and touches the signal
only when it fails. -/
theorem SenderMove.frame {s s' : SenderAt ε ρ σ} {log : List Event}
    (move : SenderMove site r s log s') :
    s'.pumps.session = s.pumps.session ∧ s'.pumps.receiver = s.pumps.receiver ∧
      s'.pumps.applied = s.pumps.applied ∧
      (s'.pumps.signal = s.pumps.signal ∨
        s'.pumps.signal = s.pumps.signal.set .failed ∧ ∃ e, s'.pumps.sender = .left (.error e)) := by
  cases move with
  | outputFails => exact ⟨rfl, rfl, rfl, .inr ⟨rfl, _, rfl⟩⟩
  | unsealable => exact ⟨rfl, rfl, rfl, .inr ⟨rfl, _, rfl⟩⟩
  | receiverFails => exact ⟨rfl, rfl, rfl, .inr ⟨rfl, _, rfl⟩⟩
  | pauses =>
      unfold Pumps.senderPauses
      split <;> exact ⟨rfl, rfl, rfl, .inl rfl⟩
  | lingers | quits | seals | delivered | skips | uploads | uploadWaits | uploadResumes | uploaded
  | leaves => exact ⟨rfl, rfl, rfl, .inl rfl⟩

end QuorumVault.Round
