/-
What the signal tells.

The signal of a round moves once from the states of a round under way to one that is over,
whatever the order in which the pumps have their turns.  It says that the round is over as soon
as the sender has failed or the receiver has left, and no sooner.  A receiver that has not begun
when the sender fails never does anything.
-/
import QuorumVault.Proofs.Round.Inbound
import QuorumVault.Proofs.Round.Outbound
import QuorumVault.Proofs.Round.Results

namespace QuorumVault

namespace RoundState

/-- The first state may give way to the second one. -/
inductive Leads : RoundState → RoundState → Prop
  | stays (state : RoundState) : Leads state state
  | begins : Leads .created .awaitingMessages
  | ends {state last : RoundState} (going : state.isTerminal = false) (terminal : last.isTerminal = true) :
      Leads state last

variable {a b c : RoundState}

/-- A round that is over stays so. -/
theorem Leads.eq_of_isTerminal (h : a.Leads b) (terminal : a.isTerminal = true) : b = a := by
  cases h with
  | stays => rfl
  | begins => cases terminal
  | ends going => simp [going] at terminal

theorem Leads.trans (h : a.Leads b) (h' : b.Leads c) : a.Leads c := by
  cases h with
  | stays => exact h'
  | begins =>
      cases h' with
      | stays => exact .begins
      | ends going terminal => exact .ends rfl terminal
  | ends going terminal =>
      rw [h'.eq_of_isTerminal terminal]
      exact .ends going terminal

/-- Whatever is said of a round but that nothing has happened, it may give way to that. -/
theorem leads_set (a : RoundState) {b : RoundState} (said : b ≠ .created) : a.Leads (a.set b) := by
  cases a with
  | finished | timedOut | failed => exact .stays _
  | created =>
      cases b with
      | created => exact absurd rfl said
      | awaitingMessages => exact .begins
      | finished | timedOut | failed => exact .ends rfl rfl
  | awaitingMessages =>
      cases b with
      | created => exact absurd rfl said
      | awaitingMessages => exact .stays _
      | finished | timedOut | failed => exact .ends rfl rfl

end RoundState

/-- Something that only a receiver does. -/
def Event.byReceiver : Event → Bool
  | .engine _ (.input ..) _ | .engine _ (.finish _) _ => true
  | .asked (.download ..) | .asked (.delete ..) => true
  | .answered (.download ..) _ | .answered (.delete ..) _ => true
  | _ => false

namespace Round

variable {ε ρ σ : Type} {site : Site ε ρ σ} {r : Round} {session : Session} {deadline : Time}
  {log log' : List Event}

/-- The sender has failed. -/
def Pumps.senderFailed (p : Pumps) : Bool :=
  match p.sender with
  | .left (.error _) => true
  | _ => false

/-! ### How the signal moves -/

theorem SenderMove.leads {s s' : SenderAt ε ρ σ} (move : SenderMove site r s log s') :
    s.pumps.signal.Leads s'.pumps.signal := by
  obtain ⟨-, -, -, same | ⟨failed, -⟩⟩ := move.frame
  · rw [same]
    exact .stays _
  · rw [failed]
    exact RoundState.leads_set _ nofun

theorem ReceiverMove.leads {s s' : ReceiverAt ε ρ σ} (move : ReceiverMove site r deadline s log s') :
    s.pumps.signal.Leads s'.pumps.signal := by
  cases move with
  | begins | aborts | fetchFails | unreadable | refused | finishedTwice | timesOut =>
      exact RoundState.leads_set _ nofun
  | @finishes p w w' answer =>
      refine RoundState.leads_set p.signal ?_
      cases answer <;> nofun
  | pauses =>
      unfold Pumps.receiverPauses
      split <;> exact .stays _
  | asks | fetchWaits | fetchResumes | fetched | passesOver | applies | clearWaits | clearResumes
  | goesOn | hasAll => exact .stays _

/-- Between any two moments of a round the signal moves on or stays. -/
theorem signal_leads {s s' : RoundAt ε ρ σ} (path : Path (RoundStep site r deadline) s log s') :
    s.pumps.signal.Leads s'.pumps.signal :=
  path_invariant path
    (I := fun t _ => s.pumps.signal.Leads t.pumps.signal)
    (S := fun t _ => s.pumps.signal.Leads t.pumps.signal)
    (R := fun t _ => s.pumps.signal.Leads t.pumps.signal)
    (.stays _)
    (fun _ h => h)
    (fun now later pump h => by simpa using h)
    id id
    (fun h move => h.trans move.leads)
    id id
    (fun h move => h.trans move.leads)

/-! ### Who is there -/

/-- In its turn the sender has not left. -/
def Sending.Waits (p : Pumps) (doing : Sending) : Prop :=
  doing ≠ .idle → p.senderLeft = false

theorem Pumps.senderLeft_of_asksOutput {p : Pumps} (asks : p.asksOutput = true) :
    p.senderLeft = false := by
  simpa [Sending.active] using Pumps.active_of_asksOutput asks

theorem Pumps.senderFailed_of_there {p : Pumps} (there : p.senderLeft = false) :
    p.senderFailed = false := by
  unfold Pumps.senderLeft at there
  unfold Pumps.senderFailed
  cases hs : p.sender <;> simp_all

/-- A sender that is there has not left with anything. -/
theorem Pumps.sender_ne_left {p : Pumps} (there : p.senderLeft = false) (result : Except Error Unit) :
    p.sender ≠ .left result := by
  intro left
  simp [Pumps.senderLeft, left] at there

/-- A receiver that is there has not left with anything. -/
theorem Pumps.receiver_ne_left {p : Pumps} (there : p.receiverLeft = false)
    (result : Except Error Bytes) : p.receiver ≠ .left result := by
  intro left
  simp [Pumps.receiverLeft, left] at there

/-- A receiver that has not left with anything is there. -/
theorem Pumps.receiverLeft_eq_false {p : Pumps} (there : ∀ result, p.receiver ≠ .left result) :
    p.receiverLeft = false := by
  unfold Pumps.receiverLeft
  cases h : p.receiver with
  | left result => exact absurd h (there result)
  | starting | asking | downloading | deleting | pausing => rfl

/-- Only a sender that is there moves. -/
theorem SenderMove.there {s s' : SenderAt ε ρ σ} (waits : s.doing.Waits s.pumps)
    (move : SenderMove site r s log s') : s.pumps.senderLeft = false := by
  cases move with
  | outputFails asks | lingers asks | quits asks | pauses asks | unsealable asks | seals asks =>
      exact Pumps.senderLeft_of_asksOutput asks
  | delivered | receiverFails | skips | uploads | uploadWaits | uploaded => exact waits nofun
  | uploadResumes h | leaves h => simp [Pumps.senderLeft, h]

theorem SenderMove.waits {s s' : SenderAt ε ρ σ} (waits : s.doing.Waits s.pumps)
    (move : SenderMove site r s log s') : s'.doing.Waits s'.pumps := by
  have there := move.there waits
  cases move with
  | outputFails | lingers | quits | pauses | unsealable | delivered | receiverFails | uploadWaits
  | leaves => exact nofun
  | seals | skips | uploads | uploadResumes | uploaded => exact fun _ => there

/-- Only a receiver that is there moves. -/
theorem ReceiverMove.there {s s' : ReceiverAt ε ρ σ} (waits : s.doing.Waits s.pumps)
    (move : ReceiverMove site r deadline s log s') : s.pumps.receiverLeft = false := by
  cases move with
  | begins h | fetchResumes h | clearResumes h =>
      exact Pumps.receiverLeft_eq_false (by rw [h]; exact nofun)
  | aborts asks | asks asks => exact Pumps.receiverLeft_of_asksBatch asks
  | timesOut waiting => exact waiting
  | fetchWaits | fetchFails | fetched | pauses | passesOver | unreadable | refused | applies
  | clearWaits | goesOn | hasAll | finishedTwice | finishes => exact waits nofun

theorem ReceiverMove.waits {s s' : ReceiverAt ε ρ σ} (waits : s.doing.Waits s.pumps)
    (move : ReceiverMove site r deadline s log s') : s'.doing.Waits s'.pumps := by
  have there := move.there waits
  cases move with
  | begins | aborts | fetchWaits | fetchFails | pauses | unreadable | refused | clearWaits
  | finishedTwice | finishes | timesOut => exact nofun
  | asks | fetchResumes | fetched | passesOver | applies | clearResumes | goesOn | hasAll =>
      exact fun _ => there

/-! ### What the signal tells -/

/-- The signal tells whether the sender has failed or the receiver has left. -/
structure Signalled (p : Pumps) : Prop where
  over_iff : p.signal.isTerminal = true ↔ p.senderFailed = true ∨ p.receiverLeft = true
  failed : p.senderFailed = true → p.receiverLeft = false → p.signal = .failed

namespace Signalled

variable {p p' : Pumps}

theorem congr (h : Signalled p) (signal : p'.signal = p.signal)
    (sender : p'.senderFailed = p.senderFailed) (receiver : p'.receiverLeft = p.receiverLeft) :
    Signalled p' := by
  refine ⟨?_, ?_⟩
  · rw [signal, sender, receiver]
    exact h.over_iff
  · rw [signal, sender, receiver]
    exact h.failed

/-- A sender that fails says so. -/
theorem senderFails (h : Signalled p) (there : p.senderLeft = false) (e : Error) :
    Signalled (p.senderLeaves (.error e)) where
  over_iff := by
    have failed : (p.senderLeaves (.error e)).senderFailed = true := rfl
    have terminal : (p.signal.set .failed).isTerminal = true :=
      (RoundState.isTerminal_set ..).trans (Bool.or_true _)
    exact iff_of_true terminal (.inl failed)
  failed _ (receiver : p.receiverLeft = false) := by
    have going : p.signal.isTerminal ≠ true := by
      rw [Ne, h.over_iff, Pumps.senderFailed_of_there there, receiver]
      simp
    show p.signal.set .failed = .failed
    rw [RoundState.set, if_neg going]

/-- A receiver that leaves says that the round is over. -/
theorem of_receiverLeft {state last : RoundState} (left : p.receiverLeft = true)
    (signal : p.signal = state.set last) (terminal : last.isTerminal = true) : Signalled p := by
  refine ⟨?_, ?_⟩
  · rw [signal, left, RoundState.isTerminal_set, terminal]
    simp
  · rw [left]
    nofun

theorem begins (h : Signalled p) : Signalled { p with signal := p.signal.set .awaitingMessages } where
  over_iff := by
    rw [RoundState.isTerminal_set, RoundState.isTerminal, Bool.or_false]
    exact h.over_iff
  failed sender receiver := by
    have said : p.signal = .failed := h.failed sender receiver
    show p.signal.set .awaitingMessages = .failed
    rw [said]
    rfl

end Signalled

theorem SenderMove.signalled {s s' : SenderAt ε ρ σ} (waits : s.doing.Waits s.pumps)
    (h : Signalled s.pumps) (move : SenderMove site r s log s') : Signalled s'.pumps := by
  have there := move.there waits
  have unfailed := Pumps.senderFailed_of_there there
  cases move with
  | outputFails | unsealable | receiverFails => exact h.senderFails there _
  | pauses =>
      unfold Pumps.senderPauses
      split <;> exact h.congr rfl unfailed.symm rfl
  | lingers | quits | delivered | uploadWaits | leaves => exact h.congr rfl unfailed.symm rfl
  | seals | skips | uploads | uploadResumes | uploaded => exact h.congr rfl rfl rfl

theorem ReceiverMove.signalled {s s' : ReceiverAt ε ρ σ} (waits : s.doing.Waits s.pumps)
    (h : Signalled s.pumps) (move : ReceiverMove site r deadline s log s') :
    Signalled s'.pumps := by
  have there := move.there waits
  cases move with
  | begins => exact h.begins
  | aborts | fetchFails | unreadable | refused | finishedTwice | timesOut =>
      exact .of_receiverLeft rfl rfl rfl
  | @finishes p w w' answer =>
      cases answer <;> exact .of_receiverLeft rfl rfl rfl
  | pauses =>
      unfold Pumps.receiverPauses
      split <;> exact h.congr rfl rfl there.symm
  | fetchWaits | clearWaits => exact h.congr rfl rfl there.symm
  | asks | fetchResumes | fetched | passesOver | applies | clearResumes | goesOn | hasAll =>
      exact h.congr rfl rfl rfl

theorem signalled_start (r : Round) (session : Session) : Signalled (r.start session) :=
  ⟨by simp [Round.start, RoundState.isTerminal, Pumps.senderFailed, Pumps.receiverLeft], nofun⟩

theorem Signalled.serve {p : Pumps} (h : Signalled p) (now later : Time) (pump : Pump) :
    Signalled (p.serve now later pump) :=
  h.congr (by simp) (by simp [Pumps.senderFailed]) (by simp [Pumps.receiverLeft])

/-- At every moment the signal tells who has failed or left. -/
theorem signalled_of_path {w : World ε ρ σ} {s : RoundAt ε ρ σ}
    (path : Path (RoundStep site r deadline) ⟨r.start session, w⟩ log s) : Signalled s.pumps :=
  path_invariant path
    (I := fun s _ => Signalled s.pumps)
    (S := fun s _ => s.doing.Waits s.pumps ∧ Signalled s.pumps)
    (R := fun s _ => s.doing.Waits s.pumps ∧ Signalled s.pumps)
    (signalled_start r session)
    (fun _ h => h)
    (fun now later pump h => h.serve now later pump)
    (fun h => ⟨nofun, h⟩)
    (fun h => h.2)
    (fun h move => ⟨move.waits h.1, move.signalled h.1 h.2⟩)
    (fun h => ⟨nofun, h⟩)
    (fun h => h.2)
    (fun h move => ⟨move.waits h.1, move.signalled h.1 h.2⟩)

/-! ### A receiver that has not begun -/

theorem SenderMove.not_byReceiver {s s' : SenderAt ε ρ σ} (move : SenderMove site r s log s') :
    ∀ e ∈ log, e.byReceiver = false := by
  cases move with
  | outputFails | lingers | quits | pauses | unsealable | seals | receiverFails | skips | uploads
  | uploaded => simp [Event.byReceiver]
  | delivered | uploadWaits | uploadResumes | leaves => exact List.forall_mem_nil _

/-- Nothing was done by the receiver. -/
def Untouched (log : List Event) : Prop :=
  ∀ e ∈ log, e.byReceiver = false

theorem Untouched.append (h : Untouched log) (h' : Untouched log') : Untouched (log ++ log') :=
  fun e mem => (List.mem_append.1 mem).elim (h e) (h' e)

/-- A receiver that has not begun has done nothing. -/
theorem ReceiverMove.untouched {s s' : ReceiverAt ε ρ σ}
    (h : s.doing = .idle → s.pumps.receiver = .starting → Untouched log)
    (move : ReceiverMove site r deadline s log' s') (idle : s'.doing = .idle)
    (starting : s'.pumps.receiver = .starting) : Untouched (log ++ log') := by
  cases move with
  | begins => simpa using h rfl starting
  | pauses =>
      dsimp only [Pumps.receiverPauses] at starting
      split at starting <;> cases starting
  | aborts | fetchWaits | fetchFails | unreadable | refused | clearWaits | finishedTwice | finishes
  | timesOut => cases starting
  | asks | fetchResumes | fetched | passesOver | applies | clearResumes | goesOn | hasAll => cases idle

theorem untouched_of_path {w : World ε ρ σ} {s : RoundAt ε ρ σ}
    (path : Path (RoundStep site r deadline) ⟨r.start session, w⟩ log s)
    (starting : s.pumps.receiver = .starting) : Untouched log :=
  path_invariant path
    (I := fun s log => s.pumps.receiver = .starting → Untouched log)
    (S := fun s log => s.pumps.receiver = .starting → Untouched log)
    (R := fun s log => s.doing = .idle → s.pumps.receiver = .starting → Untouched log)
    (fun _ => List.forall_mem_nil _)
    (fun _ h => h)
    (fun now later pump h => by simpa using h)
    id id
    (fun h move starting => by
      rw [move.frame.2.1] at starting
      exact (h starting).append move.not_byReceiver)
    (fun h _ => h)
    (fun h => h rfl)
    (fun h move => move.untouched h)
    starting

/-- The sender has failed, and the receiver has not begun or has left. -/
structure Barred (p : Pumps) : Prop where
  sender : p.senderFailed = true
  receiver : p.receiver = .starting ∧ p.signal = .failed ∨ p.receiverLeft = true

theorem Barred.senderLeft {p : Pumps} (h : Barred p) : p.senderLeft = true := by
  have failed := h.sender
  unfold Pumps.senderFailed at failed
  unfold Pumps.senderLeft
  cases hs : p.sender <;> simp_all

theorem Barred.serve {p : Pumps} (h : Barred p) (now later : Time) (pump : Pump) :
    Barred (p.serve now later pump) :=
  ⟨by simpa [Pumps.senderFailed] using h.sender, by simpa [Pumps.receiverLeft] using h.receiver⟩

/-- A receiver that begins after the sender has failed leaves without doing anything. -/
theorem ReceiverMove.barred {s s' : ReceiverAt ε ρ σ} (idle : s.doing = .idle) (h : Barred s.pumps)
    (move : ReceiverMove site r deadline s log s') :
    s'.doing = .idle ∧ Barred s'.pumps ∧ log = [] := by
  have waits : s.doing.Waits s.pumps := fun busy => absurd idle busy
  have there := move.there waits
  obtain ⟨starting, signal⟩ : s.pumps.receiver = .starting ∧ s.pumps.signal = .failed := by
    rcases h.receiver with begins | left
    · exact begins
    · rw [left] at there
      cases there
  cases move with
  | begins =>
      refine ⟨rfl, ⟨h.sender, .inl ⟨starting, ?_⟩⟩, rfl⟩
      dsimp only at signal ⊢
      rw [signal]
      rfl
  | aborts | timesOut => exact ⟨rfl, ⟨h.sender, .inr rfl⟩, rfl⟩
  | asks asks unfailed => exact absurd signal unfailed
  | fetchResumes waiting | clearResumes waiting => cases waiting.symm.trans starting
  | fetchWaits | fetchFails | fetched | pauses | passesOver | unreadable | refused | applies
  | clearWaits | goesOn | hasAll | finishedTwice | finishes => cases idle

theorem untouched_of_barred {s s' : RoundAt ε ρ σ} (h : Barred s.pumps)
    (path : Path (RoundStep site r deadline) s log s') : Untouched log := by
  have kept := path_invariant path
    (I := fun s log => Barred s.pumps ∧ Untouched log)
    (S := fun s log => (s.doing = .idle ∧ Barred s.pumps) ∧ Untouched log)
    (R := fun s log => (s.doing = .idle ∧ Barred s.pumps) ∧ Untouched log)
    ⟨h, List.forall_mem_nil _⟩
    (fun _ h => h)
    (fun now later pump h => ⟨h.1.serve now later pump, h.2⟩)
    (fun h => ⟨⟨rfl, h.1⟩, h.2⟩)
    (fun h => ⟨h.1.2, h.2⟩)
    (fun {s _ _ _} h move => by
      have there := move.there fun busy => absurd h.1.1 busy
      rw [h.1.2.senderLeft] at there
      cases there)
    (fun h => ⟨⟨rfl, h.1⟩, h.2⟩)
    (fun h => ⟨h.1.2, h.2⟩)
    (fun h move => by
      obtain ⟨idle, barred, rfl⟩ := move.barred h.1.1 h.1.2
      exact ⟨⟨idle, barred⟩, h.2.append (List.forall_mem_nil _)⟩)
  exact kept.2

end Round

end QuorumVault
