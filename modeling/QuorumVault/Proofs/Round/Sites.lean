/-
Sites that a round cannot tell apart.

A round calls the engine in its session, and of the relay it asks no more than to take its
envelopes, to serve those of the others and to delete what was applied.  What a site does
otherwise is out of its sight, so the round is the same at two sites that do not differ in these.
-/
import QuorumVault.Round.Pumping

namespace QuorumVault.Round

variable {ε ρ σ : Type}

/-- The sites are the same to a round. -/
structure SameSite (r : Round) (site site' : Site ε ρ σ) : Prop where
  engine : ∀ (w : World ε ρ σ) family c, w.callEngine site' family c = w.callEngine site family c
  upload : ∀ (w : World ε ρ σ) envelope,
    w.askRelay site' (.upload envelope r.scope) = w.askRelay site (.upload envelope r.scope)
  download : ∀ w : World ε ρ σ, w.askRelay site' (.download r.sessionId r.party r.scope) =
    w.askRelay site (.download r.sessionId r.party r.scope)
  delete : ∀ (w : World ε ρ σ) hash, w.askRelay site' (.delete r.sessionId r.party hash r.scope) =
    w.askRelay site (.delete r.sessionId r.party hash r.scope)
  nonce : site'.nonce = site.nonce
  receiverFirst : site'.receiverFirst = site.receiverFirst
  patience : site'.patience = site.patience

namespace SameSite

variable {r : Round} {site site' : Site ε ρ σ}

theorem deliver_eq (h : r.SameSite site site') (message : Bytes) (body : String) (places : List Nat)
    (p : Pumps) (w : World ε ρ σ) :
    deliver site' r message body places p w = deliver site r message body places p w := by
  induction places generalizing p w with
  | nil => rfl
  | cons place places ih => simp only [deliver, ih, h.engine, h.upload]

theorem senderTurn_eq (h : r.SameSite site site') (p : Pumps) (w : World ε ρ σ) :
    senderTurn site' r p w = senderTurn site r p w := by
  simp only [senderTurn, askOutput, h.deliver_eq, h.engine, h.nonce]

theorem finishRound_eq (h : r.SameSite site site') (p : Pumps) (w : World ε ρ σ) :
    finishRound site' p w = finishRound site p w := by
  simp only [finishRound, Session.finish, h.engine]

theorem applyBatch_eq (h : r.SameSite site site') (batch : List Envelope) (p : Pumps)
    (w : World ε ρ σ) : applyBatch site' r batch p w = applyBatch site r batch p w := by
  induction batch generalizing p w with
  | nil => rfl
  | cons m batch ih => simp only [applyBatch, ih, h.finishRound_eq, h.engine, h.delete]

theorem receive_eq (h : r.SameSite site site') (p : Pumps) (w : World ε ρ σ) :
    receive site' r p w = receive site r p w := by
  simp only [receive, askBatch, takeBatch, h.finishRound_eq, h.applyBatch_eq, h.download]

theorem receiveOn_eq (h : r.SameSite site site') (bound : Nat) (p : Pumps) (w : World ε ρ σ) :
    receiveOn site' r bound p w = receiveOn site r bound p w := by
  induction bound generalizing p w with
  | zero => rfl
  | succ bound ih => simp only [receiveOn, ih, h.receive_eq]

theorem turn_eq (h : r.SameSite site site') (deadline : Time) (pump : Pump) (p : Pumps)
    (w : World ε ρ σ) : turn site' r deadline pump p w = turn site r deadline pump p w := by
  cases pump with
  | sender => exact h.senderTurn_eq p w
  | receiver => simp only [turn, receiverTurn, h.receiveOn_eq]

theorem steps_eq (h : r.SameSite site site') (deadline : Time) (limit : Option Time) (patience : Nat)
    (p : Pumps) (w : World ε ρ σ) :
    steps site' r deadline limit patience p w = steps site r deadline limit patience p w := by
  have goes : receiverGoes site' = receiverGoes site := by
    unfold receiverGoes
    rw [h.receiverFirst]
  have nexts (now : Time) (p : Pumps) : next site' deadline now p = next site deadline now p := by
    unfold next nextTurn
    rw [goes]
  induction patience generalizing p w with
  | zero => rfl
  | succ patience ih => simp only [steps, nexts, h.turn_eq, ih]

theorem run_eq (h : r.SameSite site site') : r.run site' = r.run site := by
  funext session limit w
  simp only [run, h.steps_eq, h.patience]

end SameSite

end QuorumVault.Round
