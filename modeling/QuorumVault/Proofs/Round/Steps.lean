/-
The steps of a round.

A round is made of turns of its pumps and of time passing between them.  `run_path` says
so of every run of a round, whatever limit it is under, and how its ending depends on
what the pumps know in the end: a result or a failure is the pumps' own, and otherwise
the round was left before they were gone.
-/
import QuorumVault.Proofs.Round.ReceiverMoves
import QuorumVault.Proofs.Round.SenderMoves
import QuorumVault.Round.Pumping

namespace QuorumVault.Round

variable {ε ρ σ : Type}

/-- A state of a round. -/
structure RoundAt (ε ρ σ : Type) where
  pumps : Pumps
  world : World ε ρ σ

/-- The steps of a round. -/
inductive RoundStep (site : Site ε ρ σ) (r : Round) (deadline : Time) :
    RoundAt ε ρ σ → List Event → RoundAt ε ρ σ → Prop
  | passes {p w} (t : Time) : RoundStep site r deadline ⟨p, w⟩ [] ⟨p, w.advanceTo t⟩
  | serves {p w} (now later : Time) (pump : Pump) :
      RoundStep site r deadline ⟨p, w⟩ [] ⟨p.serve now later pump, w⟩
  | sends {p w p' w' log} (path : Path (SenderMove site r) ⟨.idle, p, w⟩ log ⟨.idle, p', w'⟩) :
      RoundStep site r deadline ⟨p, w⟩ log ⟨p', w'⟩
  | receives {p w p' w' log}
      (path : Path (ReceiverMove site r deadline) ⟨.idle, p, w⟩ log ⟨.idle, p', w'⟩) :
      RoundStep site r deadline ⟨p, w⟩ log ⟨p', w'⟩

/-- The pumps know what the round ended with, unless it was left early. -/
def Pumps.Ended (p : Pumps) (limit : Option Time) : Ending Bytes → Prop
  | .done raw => p.result? = some (.ok raw)
  | .failed e => p.result? = some (.error e)
  | .cut => limit.isSome = true
  | .endless => True
  | .overflow => False

variable {site : Site ε ρ σ} {r : Round} {deadline : Time}

/-- A pump's turn is a step. -/
theorem turn_step (site : Site ε ρ σ) (r : Round) (deadline : Time) (pump : Pump) (p : Pumps)
    (w : World ε ρ σ) :
    ∃ log, RoundStep site r deadline ⟨p, w⟩ log
      ⟨(turn site r deadline pump p w).1, (turn site r deadline pump p w).2⟩ := by
  cases pump with
  | sender =>
      obtain ⟨log, path⟩ := senderTurn_path site r p w
      exact ⟨log, .sends path⟩
  | receiver =>
      obtain ⟨log, path⟩ := receiverTurn_path site r deadline p w
      exact ⟨log, .receives path⟩

/-- Waiting in vain only lets time pass, and the round is left. -/
theorem expire_path (site : Site ε ρ σ) (r : Round) (deadline : Time) (p : Pumps)
    (limit : Option Time) (w : World ε ρ σ) :
    ∃ log, Path (RoundStep site r deadline) ⟨p, w⟩ log ⟨p, (Run.expire limit w (α := Bytes)).2⟩ ∧
      p.Ended limit (Run.expire limit w).1 := by
  cases limit with
  | none => exact ⟨[], .refl _, trivial⟩
  | some last => exact ⟨[], .single (.passes last), rfl⟩

/-- What happens next tells the result only when the pumps know it. -/
theorem result?_of_next {now : Time} {p : Pumps} {result : Except Error Bytes}
    (h : next site deadline now p = .ended result) : p.result? = some result := by
  unfold next at h
  by_cases sends : p.senderReady = true
  · rw [if_pos sends] at h
    cases h
  rw [if_neg sends] at h
  by_cases receives : p.receiverReady = true
  · rw [if_pos receives] at h
    cases h
  rw [if_neg receives] at h
  cases known : p.result? with
  | some result' =>
      rw [known] at h
      cases h
      rfl
  | none =>
      rw [known] at h
      dsimp only at h
      split at h <;> cases h

/-- However many steps of a round are followed, they are steps. -/
theorem steps_path (site : Site ε ρ σ) (r : Round) (deadline : Time) (limit : Option Time)
    (patience : Nat) (p : Pumps) (w : World ε ρ σ) :
    ∃ log p', Path (RoundStep site r deadline) ⟨p, w⟩ log
        ⟨p', (steps site r deadline limit patience p w).2⟩ ∧
      p'.Ended limit (steps site r deadline limit patience p w).1 := by
  induction patience generalizing p w with
  | zero => exact ⟨[], p, .refl _, trivial⟩
  | succ patience ih =>
      rw [steps]
      cases h : next site deadline w.now p with
      | atOnce pump =>
          obtain ⟨log, step⟩ := turn_step site r deadline pump p w
          obtain ⟨log', p', path, ended⟩ := ih (turn site r deadline pump p w).1
            (turn site r deadline pump p w).2
          exact ⟨_, p', .step step path, ended⟩
      | ended result =>
          have known := result?_of_next h
          cases result with
          | ok raw => exact ⟨[], p, .refl _, known⟩
          | error e => exact ⟨[], p, .refl _, known⟩
      | later t pump =>
          dsimp only
          by_cases late : Run.exceeds limit t = true
          · rw [if_pos late]
            obtain ⟨log, path, ended⟩ := expire_path site r deadline p limit w
            exact ⟨log, p, path, ended⟩
          · rw [if_neg late]
            obtain ⟨log, step⟩ := turn_step site r deadline pump (p.serve w.now t pump)
              (w.advanceTo t)
            obtain ⟨log', p', path, ended⟩ := ih
              (turn site r deadline pump (p.serve w.now t pump) (w.advanceTo t)).1
              (turn site r deadline pump (p.serve w.now t pump) (w.advanceTo t)).2
            exact ⟨_, p', .silently (.serves w.now t pump) (.silently (.passes t) (.step step path)),
              ended⟩
      | nothing =>
          obtain ⟨log, path, ended⟩ := expire_path site r deadline p limit w
          exact ⟨log, p, path, ended⟩

/-- A run of a round is made of steps, and ends as the pumps know. -/
theorem run_path (site : Site ε ρ σ) (r : Round) (session : Session) (limit : Option Time)
    (w : World ε ρ σ) :
    ∃ log p', Path (RoundStep site r (w.now + r.deadline)) ⟨r.start session, w⟩ log
        ⟨p', (r.run site session limit w).2⟩ ∧
      p'.Ended limit (r.run site session limit w).1 :=
  steps_path site r _ limit site.patience (r.start session) w

/-! ### Single steps -/

section

variable {limit : Option Time} {p : Pumps} {w : World ε ρ σ} {pump : Pump} {t : Time}

theorem steps_of_atOnce (now : next site deadline w.now p = .atOnce pump) (patience : Nat) :
    steps site r deadline limit (patience + 1) p w =
      steps site r deadline limit patience (turn site r deadline pump p w).1
        (turn site r deadline pump p w).2 := by
  rw [steps, now]

theorem steps_of_later (later : next site deadline w.now p = .later t pump)
    (left : Run.exceeds limit t = false) (patience : Nat) :
    steps site r deadline limit (patience + 1) p w =
      steps site r deadline limit patience
        (turn site r deadline pump (p.serve w.now t pump) (w.advanceTo t)).1
        (turn site r deadline pump (p.serve w.now t pump) (w.advanceTo t)).2 := by
  rw [steps, later]
  dsimp only
  rw [left]
  rfl

end

/-! ### Turns -/

section

variable (p : Pumps) (now later : Time) (pump : Pump)

@[simp] theorem Pumps.serve_session : (p.serve now later pump).session = p.session := by
  unfold Pumps.serve Pumps.wake
  split <;> rfl

@[simp] theorem Pumps.serve_signal : (p.serve now later pump).signal = p.signal := by
  unfold Pumps.serve Pumps.wake
  split <;> rfl

@[simp] theorem Pumps.serve_applied : (p.serve now later pump).applied = p.applied := by
  unfold Pumps.serve Pumps.wake
  split <;> rfl

@[simp] theorem Pumps.serve_sender : (p.serve now later pump).sender = p.sender := by
  unfold Pumps.serve Pumps.wake
  split <;> rfl

@[simp] theorem Pumps.serve_receiver : (p.serve now later pump).receiver = p.receiver := by
  unfold Pumps.serve Pumps.wake
  split <;> rfl

@[simp] theorem Pumps.serve_messenger : (p.serve now later pump).messenger = p.messenger := by
  unfold Pumps.serve Pumps.wake
  split <;> rfl

end

/-! Once the receiver has left with a result, the round is over when the sender has left. -/

section

variable {limit : Option Time} {p : Pumps} {w : World ε ρ σ} {t : Time} {raw : Bytes}

theorem steps_of_left
    (receiver : p.receiver = .left (.ok raw)) (sender : p.sender = .left (.ok ())) (bound : Nat) :
    steps site r deadline limit (bound + 1) p w = (.done raw, w) := by
  have ended : next site deadline w.now p = .ended (.ok raw) := by
    simp [next, Pumps.senderReady, Pumps.receiverReady, Pumps.result?, receiver, sender]
  rw [steps, ended]

/-- What is next when only the sender is still there, and waits. -/
theorem next_of_senderWake {result : Except Error Bytes}
    (receiver : p.receiver = .left result) (ready : p.senderReady = false)
    (wakes : p.senderWake = some t) (now : Time) :
    next site deadline now p = .later t .sender := by
  have unsettled : p.result? = none := by
    unfold Pumps.senderWake at wakes
    unfold Pumps.result?
    rw [receiver]
    cases sender : p.sender with
    | left => simp [sender] at wakes
    | asking | uploading | pausing | lingering => rfl
  have gone : receiverDue deadline p = none := by
    unfold receiverDue Pumps.receiverLeft
    rw [receiver]
    rfl
  unfold next nextTurn
  rw [ready, unsettled, wakes, gone]
  simp [Pumps.receiverReady, receiver]

theorem steps_of_lingering
    (receiver : p.receiver = .left (.ok raw)) (sender : p.sender = .lingering t)
    (left : Run.exceeds limit t = false) (bound : Nat) :
    steps site r deadline limit (bound + 2) p w = (.done raw, w.advanceTo t) := by
  have later : next site deadline w.now p = .later t .sender :=
    next_of_senderWake receiver (by simp [Pumps.senderReady, sender])
      (by simp [Pumps.senderWake, sender]) w.now
  have turned (w : World ε ρ σ) (now : Time) :
      turn site r deadline .sender (p.serve now t .sender) w =
        ((p.serve now t .sender).senderLeaves (.ok ()), w) := by
    unfold turn senderTurn
    dsimp only
    rw [Pumps.serve_sender, sender]
  rw [steps_of_later later left, turned]
  refine steps_of_left ?_ rfl bound
  show (p.serve w.now t .sender).receiver = _
  rw [Pumps.serve_receiver, receiver]

end

/-! ### Logs -/

theorem since_of_senderPath {s s' : SenderAt ε ρ σ} {log : List Event}
    (path : Path (SenderMove site r) s log s') : s.world.Since s'.world log := by
  simpa using path.invariant (I := fun t log => s.world.Since t.world log)
    (fun since move => since.trans move.since) (World.Since.refl _)

theorem since_of_receiverPath {s s' : ReceiverAt ε ρ σ} {log : List Event}
    (path : Path (ReceiverMove site r deadline) s log s') : s.world.Since s'.world log := by
  simpa using path.invariant (I := fun t log => s.world.Since t.world log)
    (fun since move => since.trans move.since) (World.Since.refl _)

theorem RoundStep.since {s s' : RoundAt ε ρ σ} {log : List Event}
    (step : RoundStep site r deadline s log s') : s.world.Since s'.world log := by
  cases step with
  | passes => exact .refl _
  | serves => exact .refl _
  | sends path => exact since_of_senderPath path
  | receives path => exact since_of_receiverPath path

theorem since_of_path {s s' : RoundAt ε ρ σ} {log : List Event}
    (path : Path (RoundStep site r deadline) s log s') : s.world.Since s'.world log := by
  simpa using path.invariant (I := fun t log => s.world.Since t.world log)
    (fun since step => since.trans step.since) (World.Since.refl _)

/-- Steps keep what the pumps keep between their turns: whatever holds of the pumps, the world and the
log at the start and is kept by every move holds at the end. -/
theorem path_invariant {s s' : RoundAt ε ρ σ} {log : List Event}
    (path : Path (RoundStep site r deadline) s log s') {I : RoundAt ε ρ σ → List Event → Prop}
    {S : SenderAt ε ρ σ → List Event → Prop} {R : ReceiverAt ε ρ σ → List Event → Prop}
    (start : I s [])
    (passes : ∀ {p w log} t, I ⟨p, w⟩ log → I ⟨p, w.advanceTo t⟩ log)
    (serves : ∀ {p w log} now later pump, I ⟨p, w⟩ log → I ⟨p.serve now later pump, w⟩ log)
    (sends : ∀ {p w log}, I ⟨p, w⟩ log → S ⟨.idle, p, w⟩ log)
    (sent : ∀ {p w log}, S ⟨.idle, p, w⟩ log → I ⟨p, w⟩ log)
    (sending : ∀ {s log s' log'}, S s log → SenderMove site r s log' s' → S s' (log ++ log'))
    (receives : ∀ {p w log}, I ⟨p, w⟩ log → R ⟨.idle, p, w⟩ log)
    (received : ∀ {p w log}, R ⟨.idle, p, w⟩ log → I ⟨p, w⟩ log)
    (receiving : ∀ {s log s' log'}, R s log →
      ReceiverMove site r deadline s log' s' → R s' (log ++ log')) : I s' log := by
  have kept := path.invariant (I := I) ?_ start
  · simpa using kept
  intro s log s' log' h step
  cases step with
  | passes t => simpa using passes t h
  | serves now later pump => simpa using serves now later pump h
  | sends path => exact sent (path.invariant sending (sends h))
  | receives path => exact received (path.invariant receiving (receives h))

/-- So does a run of a round. -/
theorem run_invariant (site : Site ε ρ σ) (r : Round) (session : Session) (limit : Option Time)
    (w : World ε ρ σ) {I : RoundAt ε ρ σ → List Event → Prop}
    {S : SenderAt ε ρ σ → List Event → Prop} {R : ReceiverAt ε ρ σ → List Event → Prop}
    (start : I ⟨r.start session, w⟩ [])
    (passes : ∀ {p w log} t, I ⟨p, w⟩ log → I ⟨p, w.advanceTo t⟩ log)
    (serves : ∀ {p w log} now later pump, I ⟨p, w⟩ log → I ⟨p.serve now later pump, w⟩ log)
    (sends : ∀ {p w log}, I ⟨p, w⟩ log → S ⟨.idle, p, w⟩ log)
    (sent : ∀ {p w log}, S ⟨.idle, p, w⟩ log → I ⟨p, w⟩ log)
    (sending : ∀ {s log s' log'}, S s log → SenderMove site r s log' s' → S s' (log ++ log'))
    (receives : ∀ {p w log}, I ⟨p, w⟩ log → R ⟨.idle, p, w⟩ log)
    (received : ∀ {p w log}, R ⟨.idle, p, w⟩ log → I ⟨p, w⟩ log)
    (receiving : ∀ {s log s' log'}, R s log →
      ReceiverMove site r (w.now + r.deadline) s log' s' → R s' (log ++ log')) :
    ∃ log p', w.Since (r.run site session limit w).2 log ∧
      I ⟨p', (r.run site session limit w).2⟩ log ∧
      p'.Ended limit (r.run site session limit w).1 := by
  obtain ⟨log, p', path, ended⟩ := run_path site r session limit w
  exact ⟨log, p', since_of_path path, path_invariant path start passes serves sends sent sending
    receives received receiving, ended⟩

end QuorumVault.Round
