/-
The moves of the receiver.

A turn of the receiver is broken up into moves as the sender's is: fetching a batch,
passing over a message or handing it to the engine, having it taken off the relay,
demanding the result, and giving up at the deadline.  `receiverTurn_path` says that a
turn consists of such moves.
-/
import QuorumVault.Proofs.Run.Path
import QuorumVault.Round.Receiver

namespace QuorumVault.Round

variable {ε ρ σ : Type}

/-- Where the receiver stands in its turn. -/
inductive Receiving where
  | idle
  | fetching (answer : Except Error (List Envelope))
  | applying (batch : List Envelope)
  | clearing (finished : Bool) (rest : List Envelope) (hash : String) (answer : Except Error Unit)
  | finishing

/-- The receiver is about to look for messages when its turn comes. -/
def Pumps.asksBatch (p : Pumps) : Bool :=
  match p.receiver with
  | .starting | .asking | .pausing _ => true
  | .downloading .. | .deleting .. | .left _ => false

/-- A state in a receiver's turn. -/
structure ReceiverAt (ε ρ σ : Type) where
  doing : Receiving
  pumps : Pumps
  world : World ε ρ σ

/-- What messages are fetched with. -/
abbrev downloadCall (r : Round) : Relay.Call :=
  .download r.sessionId r.party r.scope

/-- What a message is taken off the relay with. -/
abbrev deleteCall (r : Round) (hash : String) : Relay.Call :=
  .delete r.sessionId r.party hash r.scope

/-- What the engine is handed a message with. -/
abbrev Pumps.inputCall (p : Pumps) (message : Bytes) : Engine.Call :=
  .input p.session.handle message

/-- What the result is demanded with. -/
abbrev Pumps.finishCall (p : Pumps) : Engine.Call :=
  .finish p.session.handle

/-- What a message is remembered by. -/
abbrev Pumps.keyOf (r : Round) (m : Envelope) : String :=
  Applied.key r.sessionId r.party r.scope m.hash

/-- The receiver passes over a message: its own, or one that was applied. -/
abbrev Pumps.Passes (r : Round) (p : Pumps) (m : Envelope) : Prop :=
  m.sender = r.party ∨ p.applied.contains (Pumps.keyOf r m) = true

/-- The moves of the receiver. -/
inductive ReceiverMove (site : Site ε ρ σ) (r : Round) (deadline : Time) :
    ReceiverAt ε ρ σ → List Event → ReceiverAt ε ρ σ → Prop
  | begins {p w} (h : p.receiver = .starting) :
      ReceiverMove site r deadline ⟨.idle, p, w⟩ []
        ⟨.idle, { p with signal := p.signal.set .awaitingMessages }, w⟩
  | aborts {p w} (asks : p.asksBatch = true) (signal : p.signal = .failed) :
      ReceiverMove site r deadline ⟨.idle, p, w⟩ [] ⟨.idle, p.receiverLeaves (.error aborted), w⟩
  | asks {p w w' took answer} (asks : p.asksBatch = true) (signal : p.signal ≠ .failed)
      (ask : w.askRelay site (downloadCall r) = (took, answer, w')) :
      ReceiverMove site r deadline ⟨.idle, p, w⟩ [.asked (downloadCall r)]
        ⟨.fetching answer, p, w'⟩
  | fetchWaits {p w answer} (ready : Option Time) :
      ReceiverMove site r deadline ⟨.fetching answer, p, w⟩ []
        ⟨.idle, { p with receiver := .downloading answer ready }, w⟩
  | fetchResumes {p w answer ready} (h : p.receiver = .downloading answer ready) :
      ReceiverMove site r deadline ⟨.idle, p, w⟩ [] ⟨.fetching answer, p, w⟩
  | fetchFails {p w e} :
      ReceiverMove site r deadline ⟨.fetching (.error e), p, w⟩
        [.answered (downloadCall r) (.error e)]
        ⟨.idle, p.receiverLeaves (.error e), w.record (.answered (downloadCall r) (.error e))⟩
  | fetched {p w batch} :
      ReceiverMove site r deadline ⟨.fetching (.ok batch), p, w⟩
        [.answered (downloadCall r) (.ok batch)]
        ⟨.applying batch, p, w.record (.answered (downloadCall r) (.ok batch))⟩
  | pauses {p w} :
      ReceiverMove site r deadline ⟨.applying [], p, w⟩ [] ⟨.idle, p.receiverPauses r w.now, w⟩
  | passesOver {p w m rest} (passes : p.Passes r m) :
      ReceiverMove site r deadline ⟨.applying (m :: rest), p, w⟩ [] ⟨.applying rest, p, w⟩
  | unreadable {p w m rest fault} (new : ¬ p.Passes r m)
      (opened : Sealing.decode r.hexEncryptionKey m.body = .error fault) :
      ReceiverMove site r deadline ⟨.applying (m :: rest), p, w⟩ []
        ⟨.idle, p.receiverLeaves (.error fault.error), w⟩
  | refused {p w w' m rest message e} (new : ¬ p.Passes r m)
      (opened : Sealing.decode r.hexEncryptionKey m.body = .ok message)
      (call : w.callEngine site p.session.family (p.inputCall message) = (.error e, w')) :
      ReceiverMove site r deadline ⟨.applying (m :: rest), p, w⟩
        [.engine p.session.family (p.inputCall message) (.error e)]
        ⟨.idle, p.receiverLeaves (.error e), w'⟩
  | applies {p w w₁ w' m rest message finished took answer} (new : ¬ p.Passes r m)
      (opened : Sealing.decode r.hexEncryptionKey m.body = .ok message)
      (call : w.callEngine site p.session.family (p.inputCall message) = (.ok finished, w₁))
      (ask : w₁.askRelay site (deleteCall r m.hash) = (took, answer, w')) :
      ReceiverMove site r deadline ⟨.applying (m :: rest), p, w⟩
        [.engine p.session.family (p.inputCall message) (.ok finished),
          .asked (deleteCall r m.hash)]
        ⟨.clearing finished rest m.hash answer,
          { p with applied := p.applied.insert (Pumps.keyOf r m) }, w'⟩
  | clearWaits {p w finished rest hash answer} (ready : Option Time) :
      ReceiverMove site r deadline ⟨.clearing finished rest hash answer, p, w⟩ []
        ⟨.idle, { p with receiver := .deleting finished rest hash answer ready }, w⟩
  | clearResumes {p w finished rest hash answer ready}
      (h : p.receiver = .deleting finished rest hash answer ready) :
      ReceiverMove site r deadline ⟨.idle, p, w⟩ [] ⟨.clearing finished rest hash answer, p, w⟩
  | goesOn {p w rest hash answer} :
      ReceiverMove site r deadline ⟨.clearing false rest hash answer, p, w⟩
        [.answered (deleteCall r hash) answer]
        ⟨.applying rest, p, w.record (.answered (deleteCall r hash) answer)⟩
  | hasAll {p w rest hash answer} :
      ReceiverMove site r deadline ⟨.clearing true rest hash answer, p, w⟩
        [.answered (deleteCall r hash) answer]
        ⟨.finishing, p, w.record (.answered (deleteCall r hash) answer)⟩
  | finishedTwice {p w} (again : p.session.finished = true) :
      ReceiverMove site r deadline ⟨.finishing, p, w⟩ []
        ⟨.idle, p.receiverLeaves (.error p.session.finishedTwice), w⟩
  | finishes {p w w' answer} (first : p.session.finished = false)
      (call : w.callEngine site p.session.family p.finishCall = (answer, w')) :
      ReceiverMove site r deadline ⟨.finishing, p, w⟩
        [.engine p.session.family p.finishCall answer]
        ⟨.idle, { p with session := { p.session with finished := true } }.receiverLeaves answer, w'⟩
  | timesOut {p w} (waiting : p.receiverLeft = false) (due : deadline ≤ w.now) :
      ReceiverMove site r deadline ⟨.idle, p, w⟩ [] ⟨.idle, p.receiverTimesOut r, w⟩

variable {site : Site ε ρ σ} {r : Round} {deadline : Time}

/-! ### A turn consists of moves -/

theorem finishRound_path (site : Site ε ρ σ) (r : Round) (deadline : Time) (p : Pumps)
    (w : World ε ρ σ) :
    ∃ log, Path (ReceiverMove site r deadline) ⟨.finishing, p, w⟩ log
      ⟨.idle, (finishRound site p w).1, (finishRound site p w).2⟩ := by
  unfold finishRound Session.finish
  by_cases again : p.session.finished = true
  · rw [if_pos again]
    exact ⟨_, .single (.finishedTwice again)⟩
  · rw [if_neg again]
    exact ⟨_, .single (.finishes (by simpa using again) rfl)⟩

/-- What follows the answer to a deletion is done in moves, if the rest of the batch is. -/
theorem clearing_path (site : Site ε ρ σ) (r : Round) (deadline : Time) (finished : Bool)
    (hash : String) (answer : Except Error Unit) {rest : List Envelope} {p : Pumps}
    (w : World ε ρ σ)
    (next : ∀ w, ∃ log, Path (ReceiverMove site r deadline) ⟨.applying rest, p, w⟩ log
      ⟨.idle, (applyBatch site r rest p w).1, (applyBatch site r rest p w).2⟩) :
    ∃ log, Path (ReceiverMove site r deadline) ⟨.clearing finished rest hash answer, p, w⟩ log
      ⟨.idle,
        (if finished then finishRound site p (w.record (.answered (deleteCall r hash) answer))
          else applyBatch site r rest p (w.record (.answered (deleteCall r hash) answer))).1,
        (if finished then finishRound site p (w.record (.answered (deleteCall r hash) answer))
          else applyBatch site r rest p (w.record (.answered (deleteCall r hash) answer))).2⟩ := by
  cases finished with
  | false =>
      obtain ⟨log, path⟩ := next (w.record (.answered (deleteCall r hash) answer))
      exact ⟨_, .step .goesOn path⟩
  | true =>
      obtain ⟨log, path⟩ := finishRound_path site r deadline p
        (w.record (.answered (deleteCall r hash) answer))
      exact ⟨_, .step .hasAll path⟩

theorem applyBatch_path (site : Site ε ρ σ) (r : Round) (deadline : Time) (batch : List Envelope)
    (p : Pumps) (w : World ε ρ σ) :
    ∃ log, Path (ReceiverMove site r deadline) ⟨.applying batch, p, w⟩ log
      ⟨.idle, (applyBatch site r batch p w).1, (applyBatch site r batch p w).2⟩ := by
  induction batch generalizing p w with
  | nil => exact ⟨_, .single .pauses⟩
  | cons m rest ih =>
      rw [applyBatch]
      by_cases passes : p.Passes r m
      · rw [if_pos passes]
        obtain ⟨log, path⟩ := ih p w
        exact ⟨_, .step (.passesOver passes) path⟩
      rw [if_neg passes]
      cases opened : Sealing.decode r.hexEncryptionKey m.body with
      | error fault => exact ⟨_, .single (.unreadable passes opened)⟩
      | ok message =>
          dsimp only
          rcases call : w.callEngine site p.session.family (.input p.session.handle message)
            with ⟨answer, w₁⟩
          match answer with
          | .error e => exact ⟨_, .single (.refused passes opened call)⟩
          | .ok finished =>
              dsimp only
              rcases ask : w₁.askRelay site (.delete r.sessionId r.party m.hash r.scope)
                with ⟨took, answer, w₂⟩
              have applies : ReceiverMove site r deadline ⟨.applying (m :: rest), p, w⟩ _ _ :=
                .applies passes opened call ask
              match took with
              | some 0 =>
                  obtain ⟨log, path⟩ := clearing_path site r deadline finished m.hash answer w₂ (ih _)
                  exact ⟨_, .step applies path⟩
              | none => exact ⟨_, .step applies (.single (.clearWaits none))⟩
              | some (d + 1) => exact ⟨_, .step applies (.single (.clearWaits _))⟩

theorem takeBatch_path (site : Site ε ρ σ) (r : Round) (deadline : Time)
    (answer : Except Error (List Envelope)) (p : Pumps) (w : World ε ρ σ) :
    ∃ log, Path (ReceiverMove site r deadline) ⟨.fetching answer, p, w⟩ log
      ⟨.idle, (takeBatch site r answer p w).1, (takeBatch site r answer p w).2⟩ := by
  cases answer with
  | error e => exact ⟨_, .single .fetchFails⟩
  | ok batch =>
      obtain ⟨log, path⟩ := applyBatch_path site r deadline batch p
        (w.record (.answered (downloadCall r) (.ok batch)))
      exact ⟨_, .step .fetched path⟩

theorem askBatch_path (site : Site ε ρ σ) (r : Round) (deadline : Time) {p : Pumps}
    (asks : p.asksBatch = true) (w : World ε ρ σ) :
    ∃ log, Path (ReceiverMove site r deadline) ⟨.idle, p, w⟩ log
      ⟨.idle, (askBatch site r p w).1, (askBatch site r p w).2⟩ := by
  unfold askBatch
  by_cases signal : p.signal = .failed
  · rw [if_pos signal]
    exact ⟨_, .single (.aborts asks signal)⟩
  rw [if_neg signal]
  rcases ask : w.askRelay site (.download r.sessionId r.party r.scope) with ⟨took, answer, w₁⟩
  have asked : ReceiverMove site r deadline ⟨.idle, p, w⟩ _ _ := .asks asks signal ask
  match took with
  | some 0 =>
      obtain ⟨log, path⟩ := takeBatch_path site r deadline answer p w₁
      exact ⟨_, .step asked path⟩
  | none => exact ⟨_, .step asked (.single (.fetchWaits none))⟩
  | some (d + 1) => exact ⟨_, .step asked (.single (.fetchWaits _))⟩

/-- What the receiver does until it waits or is about to look again is done in moves. -/
theorem receive_path (site : Site ε ρ σ) (r : Round) (deadline : Time) (p : Pumps)
    (w : World ε ρ σ) :
    ∃ log, Path (ReceiverMove site r deadline) ⟨.idle, p, w⟩ log
      ⟨.idle, (receive site r p w).1, (receive site r p w).2⟩ := by
  unfold receive
  split
  · next h =>
      obtain ⟨log, path⟩ := askBatch_path site r deadline
        (p := { p with signal := p.signal.set .awaitingMessages }) (by rw [Pumps.asksBatch, h]) w
      exact ⟨_, .silently (.begins h) path⟩
  · next answer ready h =>
      obtain ⟨log, path⟩ := takeBatch_path site r deadline answer p w
      exact ⟨_, .silently (.fetchResumes h) path⟩
  · next finished rest hash answer ready h =>
      obtain ⟨log, path⟩ := clearing_path site r deadline finished hash answer w
        (applyBatch_path site r deadline rest p)
      exact ⟨_, .silently (.clearResumes h) path⟩
  · next h => exact askBatch_path site r deadline (by rw [Pumps.asksBatch, h]) w
  · next h => exact askBatch_path site r deadline (by rw [Pumps.asksBatch, h]) w
  · exact ⟨[], .refl _⟩

theorem receiveOn_path (site : Site ε ρ σ) (r : Round) (deadline : Time) (bound : Nat) (p : Pumps)
    (w : World ε ρ σ) :
    ∃ log, Path (ReceiverMove site r deadline) ⟨.idle, p, w⟩ log
      ⟨.idle, (receiveOn site r bound p w).1, (receiveOn site r bound p w).2⟩ := by
  induction bound generalizing p w with
  | zero => exact ⟨[], .refl _⟩
  | succ bound ih =>
      obtain ⟨log, path⟩ := receive_path site r deadline p w
      rw [receiveOn]
      dsimp only
      by_cases ready : (receive site r p w).1.receiverReady = true
      · rw [if_pos ready]
        obtain ⟨log', path'⟩ := ih (receive site r p w).1 (receive site r p w).2
        exact ⟨_, path.trans path'⟩
      · rw [if_neg ready]
        exact ⟨log, path⟩

/-- A turn of the receiver consists of moves. -/
theorem receiverTurn_path (site : Site ε ρ σ) (r : Round) (deadline : Time) (p : Pumps)
    (w : World ε ρ σ) :
    ∃ log, Path (ReceiverMove site r deadline) ⟨.idle, p, w⟩ log
      ⟨.idle, (receiverTurn site r deadline p w).1, (receiverTurn site r deadline p w).2⟩ := by
  unfold receiverTurn
  dsimp only
  obtain ⟨log, p₁, w₁, hturn, path⟩ : ∃ log p₁ w₁,
      (if (p.receiverReady || p.receiverWake.any (· ≤ w.now)) = true
        then receiveOn site r (mostSkipped + 1) p w else (p, w)) = (p₁, w₁) ∧
      Path (ReceiverMove site r deadline) ⟨.idle, p, w⟩ log ⟨.idle, p₁, w₁⟩ := by
    by_cases due : (p.receiverReady || p.receiverWake.any (· ≤ w.now)) = true
    · rw [if_pos due]
      obtain ⟨log, path⟩ := receiveOn_path site r deadline (mostSkipped + 1) p w
      exact ⟨log, _, _, rfl, path⟩
    · rw [if_neg due]
      exact ⟨[], p, w, rfl, .refl _⟩
  rw [hturn]
  dsimp only
  by_cases late : (!p₁.receiverLeft && decide (p.skipped < mostSkipped) && decide (deadline ≤ w₁.now))
      = true
  · rw [if_pos late]
    simp only [Bool.and_eq_true, Bool.not_eq_true', decide_eq_true_eq] at late
    exact ⟨_, path.trans (.single (.timesOut late.1.1 late.2))⟩
  · rw [if_neg late]
    exact ⟨log, path⟩

/-! ### What all moves have in common -/

theorem ReceiverMove.since {s s' : ReceiverAt ε ρ σ} {log : List Event}
    (move : ReceiverMove site r deadline s log s') : s.world.Since s'.world log := by
  cases move with
  | begins => exact .refl _
  | aborts => exact .refl _
  | asks _ _ ask => exact World.since_askRelay ask
  | fetchWaits => exact .refl _
  | fetchResumes => exact .refl _
  | fetchFails => exact World.since_record _ _
  | fetched => exact World.since_record _ _
  | pauses => exact .refl _
  | passesOver => exact .refl _
  | unreadable => exact .refl _
  | refused _ _ call => exact World.since_callEngine call
  | applies _ _ call ask =>
      exact (World.since_callEngine call).trans (World.since_askRelay ask)
  | clearWaits => exact .refl _
  | clearResumes => exact .refl _
  | goesOn => exact World.since_record _ _
  | hasAll => exact World.since_record _ _
  | finishedTwice => exact .refl _
  | finishes _ call => exact World.since_callEngine call
  | timesOut => exact .refl _

/-- The receiver leaves the sender and its envelopes alone, and the session too but for its being
finished. -/
theorem ReceiverMove.frame {s s' : ReceiverAt ε ρ σ} {log : List Event}
    (move : ReceiverMove site r deadline s log s') :
    s'.pumps.sender = s.pumps.sender ∧ s'.pumps.messenger = s.pumps.messenger ∧
      s'.pumps.session.family = s.pumps.session.family ∧
      s'.pumps.session.handle = s.pumps.session.handle := by
  cases move with
  | pauses =>
      unfold Pumps.receiverPauses
      split <;> exact ⟨rfl, rfl, rfl, rfl⟩
  | begins | aborts | asks | fetchWaits | fetchResumes | fetchFails | fetched | passesOver
  | unreadable | refused | applies | clearWaits | clearResumes | goesOn | hasAll | finishedTwice
  | finishes | timesOut => exact ⟨rfl, rfl, rfl, rfl⟩

end QuorumVault.Round
